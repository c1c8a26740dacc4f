/-!
Regular expressions over an alphabet of one's own choice: names of elements, particles of a schema,
classes of characters. A symbol may stand for many letters, so what fits it is a parameter. Words are
matched letter by letter: `after` is what remains to be matched behind a letter.
-/

namespace SchemaGate

/-- A regular expression over symbols. -/
inductive Expression (α : Type) where
  /-- Matches no word. -/
  | nothing
  /-- Matches the empty word. -/
  | done
  | one (symbol : α)
  | both (first second : Expression α)
  | either (left right : Expression α)
  /-- Matches as many repetitions as the bounds allow. -/
  | times (body : Expression α) (least : Nat) (most : Option Nat)

namespace Expression

variable {α β : Type}

/-- One expression behind another. -/
def andThen : Expression α → Expression α → Expression α
  | .nothing, _ => .nothing
  | _, .nothing => .nothing
  | .done, e => e
  | d, .done => d
  | d, e => .both d e

/-- One of two expressions. -/
def orElse : Expression α → Expression α → Expression α
  | .nothing, e => e
  | d, .nothing => d
  | d, e => .either d e

/-- All expressions one behind the other. -/
def sequence (es : List (Expression α)) : Expression α := es.foldr andThen .done

/-- Any one of some expressions. -/
def choice (es : List (Expression α)) : Expression α := es.foldr orElse .nothing

/-- Repetitions within bounds. -/
def repeated (e : Expression α) (least : Nat) (most : Option Nat) : Expression α :=
  if most = some 0 then .done
  else if least = 1 ∧ most = some 1 then e
  else .times e least most

/-- Does the expression match the empty word? -/
def isNullable : Expression α → Bool
  | .nothing => false
  | .done => true
  | .one _ => false
  | .both d e => d.isNullable && e.isNullable
  | .either d e => d.isNullable || e.isNullable
  | .times e least _ => least == 0 || e.isNullable

/-- What remains to be matched behind a letter, where `fits` tells which symbols it fits. -/
def after (fits : α → Bool) : Expression α → Expression α
  | .nothing => .nothing
  | .done => .nothing
  | .one a => if fits a then .done else .nothing
  | .both d e =>
    if d.isNullable then orElse (andThen (d.after fits) e) (e.after fits)
    else andThen (d.after fits) e
  | .either d e => orElse (d.after fits) (e.after fits)
  | .times e least most =>
    if most = some 0 then .nothing
    else andThen (e.after fits) (repeated e (least - 1) (most.map (· - 1)))

/-- Does the expression match the word? -/
def accepts (fits : α → β → Bool) (e : Expression α) (word : List β) : Bool :=
  (word.foldl (fun e b => e.after (fits · b)) e).isNullable

/-- The symbols that a word may start with. -/
def firsts : Expression α → List α
  | .nothing => []
  | .done => []
  | .one a => [a]
  | .both d e => if d.isNullable then d.firsts ++ e.firsts else d.firsts
  | .either d e => d.firsts ++ e.firsts
  | .times e _ _ => e.firsts

/-- The symbols that a word may end with. -/
def lasts : Expression α → List α
  | .nothing => []
  | .done => []
  | .one a => [a]
  | .both d e => if e.isNullable then d.lasts ++ e.lasts else e.lasts
  | .either d e => d.lasts ++ e.lasts
  | .times e _ _ => e.lasts

/-- The pairs of symbols that may stand next to each other. -/
def neighbours : Expression α → List (α × α)
  | .nothing => []
  | .done => []
  | .one _ => []
  | .both d e =>
    d.neighbours ++ e.neighbours ++ d.lasts.flatMap fun a => e.firsts.map fun b => (a, b)
  | .either d e => d.neighbours ++ e.neighbours
  | .times e _ most =>
    if most = some 1 then e.neighbours
    else e.neighbours ++ e.lasts.flatMap fun a => e.firsts.map fun b => (a, b)

/-- The expression with its symbols numbered from left to right, and the next number. -/
def numbered (n : Nat) : Expression α → Expression (Nat × α) × Nat
  | .nothing => (.nothing, n)
  | .done => (.done, n)
  | .one a => (.one (n, a), n + 1)
  | .both d e =>
    let (d, n) := d.numbered n
    let (e, n) := e.numbered n
    (.both d e, n)
  | .either d e =>
    let (d, n) := d.numbered n
    let (e, n) := e.numbered n
    (.either d e, n)
  | .times e least most =>
    let (e, n) := e.numbered n
    (.times e least most, n)

/-- Do two different places hold symbols that some letter fits both of? -/
def clashes (overlap : α → α → Bool) (places : List (Nat × α)) : Bool :=
  places.any fun p => places.any fun q => p.1 < q.1 && overlap p.2 q.2

/-- Does the next letter of a word always tell which place of the expression it belongs to? Which
symbols have a letter in common is given. -/
def isDeterministic (overlap : α → α → Bool) (e : Expression α) : Bool :=
  let e := (e.numbered 0).1
  let pairs := e.neighbours
  !clashes overlap e.firsts && (pairs.map fun p => p.1.1).eraseDups.all fun n =>
    !clashes overlap ((pairs.filter fun p => p.1.1 = n).map Prod.snd)

end Expression

end SchemaGate
