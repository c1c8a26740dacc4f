import SchemaGate.Text.Cut
import SchemaGate.Text.Classes

/-!
Grammars of command lines. A grammar has options and one place for words. An option may be shortened as
long as it is clear which one is meant; its value stands behind an equals sign, behind the letter of a
short option, or in the next word. Two hyphens alone end the options. Words are taken in the order in
which they stand, so that of two faults the first one counts.
-/

namespace SchemaGate.CommandLine

/-- An option: what it is for, its names, and whether it takes a value. -/
structure OptionRule (κ : Type) where
  key : κ
  names : List Text
  takesValue : Bool

/-- How many words a place takes. -/
inductive Arity where
  | one
  | oneOrMore
  /-- Everything from the first word on, options included. -/
  | everything
  deriving DecidableEq

structure Grammar (κ : Type) where
  options : List (OptionRule κ)
  /-- The name of the place for words. -/
  place : Text
  arity : Arity

/-- What is wrong with a command line. -/
inductive Fault where
  | ambiguous (word : Text) (names : List Text)
  | noValue (option : Text)
  | strayValue (option value : Text)
  | missing (place : Text)

/-- What is attached to an option in its own word: nothing, what follows an equals sign, or what
follows the letter of a short option. -/
inductive Attached where
  | nothing
  | behindSign (value : Text)
  | behindLetter (value : Text)

/-- What a word is taken for: an option by a name it matches, and what is attached to it. -/
structure OptionMatch (κ : Type) where
  /-- None if no option has such a name. -/
  rule : Option (OptionRule κ)
  name : Text
  attached : Attached

inductive Mark (κ : Type) where
  | word
  | separator
  | option (m : OptionMatch κ)

/-- What has been taken from a command line. -/
inductive Taken (κ : Type) where
  | option (rule : OptionRule κ) (value : Option Text)
  | words (words : List Text)

/-- What is taken, in order, and then a fault or the words that nothing takes. -/
structure Reading (κ : Type) where
  taken : List (Taken κ)
  outcome : Except Fault (List Text)

variable {κ : Type}

/-- An option as messages show it. -/
def OptionRule.shown (r : OptionRule κ) : Text := Text.join "/" r.names

namespace Mark

def isSeparator : Mark κ → Bool
  | .separator => true
  | _ => false

def isOption : Mark κ → Bool
  | .option _ => true
  | _ => false

end Mark

/-! ### Recognising options -/

/-- A negative number, which is not taken for an option. -/
def isNegativeNumber : Text → Bool
  | .char '-' :: rest =>
    let isDigit := fun (c : CodePoint) => c.decimal?.isSome
    let rest := if rest.getLast? = some (.char '\n') then rest.dropLast else rest
    match rest.dropWhile isDigit with
    | [] => !rest.isEmpty
    | .char '.' :: places => !places.isEmpty && places.all isDigit
    | _ => false
  | _ => false

namespace Grammar

/-- The options by each of their names. -/
def named (g : Grammar κ) : List (Text × OptionRule κ) :=
  g.options.flatMap fun r => r.names.map fun name => (name, r)

/-- The option of a name. -/
def find? (g : Grammar κ) (name : Text) : Option (OptionRule κ) :=
  (g.named.find? fun entry => entry.1 = name).map Prod.snd

/-- The part before the first equals sign, and what is behind it. -/
def splitSign (w : Text) : Text × Attached :=
  match cut? ("=" : Text) w with
  | some (before, after) => (before, .behindSign after)
  | none => (w, .nothing)

/-- The options that a word may be short for. -/
def candidates (g : Grammar κ) (w : Text) : List (OptionMatch κ) :=
  match w with
  | .char '-' :: .char '-' :: _ =>
    let (front, attached) := splitSign w
    (g.named.filter fun entry => startsWith front entry.1).map fun entry =>
      ⟨some entry.2, entry.1, attached⟩
  | .char '-' :: c :: rest =>
    (g.named.filter fun entry => entry.1 = [.char '-', c]).map fun entry =>
      ⟨some entry.2, entry.1, .behindLetter rest⟩
  | _ => []

/-- What a word is, unless it may be short for several options. -/
def markOf (g : Grammar κ) (w : Text) : Except Fault (Mark κ) :=
  if w.head? ≠ some (.char '-') then .ok .word
  else if w = ("--" : Text) then .ok .separator
  else
    match g.find? w with
    | some r => .ok (.option ⟨some r, w, .nothing⟩)
    | none =>
      let (front, attached) := splitSign w
      match w.length, g.find? front, g.candidates w with
      | 1, _, _ => .ok .word
      | _, some r, _ => .ok (.option ⟨some r, front, attached⟩)
      | _, _, [m] => .ok (.option m)
      | _, _, m :: n :: more => .error (.ambiguous w ((m :: n :: more).map OptionMatch.name))
      | _, _, [] =>
        if isNegativeNumber w || w.contains (.char ' ') then .ok .word
        else .ok (.option ⟨none, w, .nothing⟩)

/-- What each word is; behind two hyphens alone there are only words. -/
def marks (g : Grammar κ) : List Text → Except Fault (List (Text × Mark κ))
  | [] => .ok []
  | w :: rest => do
    match ← g.markOf w with
    | .separator => return (w, .separator) :: rest.map fun w => (w, .word)
    | mark => return (w, mark) :: (← g.marks rest)

/-! ### Taking words -/

/-- What has been taken, the words that nothing takes, and what is left. -/
structure Step (κ : Type) where
  taken : List (Taken κ)
  extra : List Text
  rest : List (Text × Mark κ)

/-- Takes an option to which nothing is attached, with the next word if it takes a value. -/
def takePlain (r : OptionRule κ) (rest : List (Text × Mark κ)) : Except Fault (Step κ) :=
  if r.takesValue then
    match rest with
    | (w, .word) :: rest => .ok ⟨[.option r (some w)], [], rest⟩
    | _ => .error (.noValue r.shown)
  else .ok ⟨[.option r none], [], rest⟩

/-- Takes an option and what is attached behind its letter. Behind one that takes no value stand more
letters of options; from the first letter on that is none, they are a word that nothing takes. -/
def takeLetters (g : Grammar κ) (r : OptionRule κ) (rest : List (Text × Mark κ)) :
    Text → Except Fault (Step κ)
  | [] => takePlain r rest
  | c :: more =>
    if r.takesValue then .ok ⟨[.option r (some (c :: more))], [], rest⟩
    else if c = .char '-' then .error (.strayValue r.shown (c :: more))
    else
      match g.find? [.char '-', c], more with
      | none, _ => .ok ⟨[.option r none], [.char '-' :: c :: more], rest⟩
      | some next, .char '=' :: value =>
        if next.takesValue then .ok ⟨[.option r none, .option next (some value)], [], rest⟩
        else .error (.strayValue next.shown value)
      | some next, more => do
        let step ← g.takeLetters next rest more
        return { step with taken := .option r none :: step.taken }

/-- Takes an option and what is attached to it. -/
def takeOption (g : Grammar κ) (r : OptionRule κ) (a : Attached) (rest : List (Text × Mark κ)) :
    Except Fault (Step κ) :=
  match a with
  | .nothing => takePlain r rest
  | .behindLetter letters => g.takeLetters r rest letters
  | .behindSign value =>
    if r.takesValue then .ok ⟨[.option r (some value)], [], rest⟩
    else .error (.strayValue r.shown value)

/-- Is the word no option? -/
def isNoOption (e : Text × Mark κ) : Bool := !e.2.isOption

/-- Takes the words that a place wants, if there are any. The first two hyphens alone are left out,
except where everything is taken. -/
def takeWords (a : Arity) (rest : List (Text × Mark κ)) :
    Option (List Text × List (Text × Mark κ)) :=
  let lead := rest.takeWhile fun e => e.2.isSeparator
  match rest.drop lead.length with
  | (w, .word) :: more =>
    let tail : List (Text × Mark κ) := match a with
      | .one => more.takeWhile fun e => e.2.isSeparator
      | .oneOrMore => more.takeWhile isNoOption
      | .everything => more
    let words := lead.map Prod.fst ++ w :: tail.map Prod.fst
    some (if a = .everything then words else words.erase ("--" : Text), more.drop tail.length)
  | _ => none

/-- Puts what was taken before in front of a reading. -/
def prepend (ts : List (Taken κ)) (r : Reading κ) : Reading κ := { r with taken := ts ++ r.taken }

/-- Puts words that nothing takes in front of a reading. -/
def leaving (words : List Text) (r : Reading κ) : Reading κ :=
  { r with outcome := r.outcome.map (words ++ ·) }

/-- Takes words and options until there are none left. -/
def takeAll (g : Grammar κ) : Nat → Bool → List (Text × Mark κ) → Reading κ
  | 0, _, rest => ⟨[], .ok (rest.map Prod.fst)⟩
  | fuel + 1, isOpen, rest =>
    let words := if isOpen then takeWords g.arity rest else none
    if rest.all isNoOption then
      match words with
      | some (ws, rest) => ⟨[.words ws], .ok (rest.map Prod.fst)⟩
      | none => ⟨[], if isOpen then .error (.missing g.place) else .ok (rest.map Prod.fst)⟩
    else
      match rest, words with
      | (w, .option m) :: rest, _ =>
        match m.rule with
        | none => leaving [w] (g.takeAll fuel isOpen rest)
        | some r =>
          match g.takeOption r m.attached rest with
          | .error f => ⟨[], .error f⟩
          | .ok step => prepend step.taken (leaving step.extra (g.takeAll fuel isOpen step.rest))
      | _, some (ws, rest) => prepend [.words ws] (g.takeAll fuel false rest)
      | rest, none =>
        let front := rest.takeWhile isNoOption
        leaving (front.map Prod.fst) (g.takeAll fuel isOpen (rest.drop front.length))

/-- Reads a command line. -/
def read (g : Grammar κ) (words : List Text) : Reading κ :=
  match g.marks words with
  | .error f => ⟨[], .error f⟩
  | .ok marked => g.takeAll (marked.length + 1) true marked

end Grammar

end SchemaGate.CommandLine
