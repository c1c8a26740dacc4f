import SchemaGate.Expression
import SchemaGate.Schema.Datatype

/-!
Patterns of values. A pattern is an expression over classes of characters that a whole value has to
match; it is read from its written form. Brackets hold single characters, ranges and escapes, and may
take characters of another bracket away.
-/

namespace SchemaGate.Schema

open Xml

/-- An expression over classes of characters. -/
abbrev Pattern := Expression (Char → Bool)

namespace Pattern

/-- Does a value match the pattern? -/
def isMatchedBy (p : Pattern) (cs : List Char) : Bool := p.accepts (fun inside c => inside c) cs

/-- The character that an escape of a single character stands for. -/
def single? (c : Char) : Option Char :=
  if c = 'n' then some '\n'
  else if c = 'r' then some '\r'
  else if c = 't' then some '\t'
  else if "\\|.?*+()\x7b\x7d-[]^".toList.contains c then some c
  else none

/-- A digit of any script. -/
def isAnyDigit (c : Char) : Bool := (CodePoint.decimal? (.char c)).isSome

/-- A character of words: a letter, a digit or a symbol, but no mark between words. -/
def isWordCharacter (c : Char) : Bool :=
  if c.toNat < 0x80 then c.isAlphanum || "$+<=>^\x60|~".toList.contains c
  else !CodePoint.isBlank (.char c)

/-- The class that an escape of many characters stands for. -/
def many? (c : Char) : Option (Char → Bool) :=
  if c = 's' then some isSpace
  else if c = 'S' then some fun x => !isSpace x
  else if c = 'd' then some isAnyDigit
  else if c = 'D' then some fun x => !isAnyDigit x
  else if c = 'w' then some isWordCharacter
  else if c = 'W' then some fun x => !isWordCharacter x
  else if c = 'i' then some isNameStart
  else if c = 'I' then some fun x => !isNameStart x
  else if c = 'c' then some isNameCharacter
  else if c = 'C' then some fun x => !isNameCharacter x
  else none

/-- The class that one character stands for. -/
def just (c : Char) : Char → Bool := fun x => x = c

/-- The class of characters in either of two. -/
def join (p q : Char → Bool) : Char → Bool := fun x => p x || q x

/-! ### Brackets -/

/-- One end of a range, or a class of many characters. -/
inductive Member where
  | single (c : Char)
  | many (p : Char → Bool)

/-- Reads a character or an escape inside brackets. -/
def member? : List Char → Option (Member × List Char)
  | '\\' :: c :: rest =>
    match single? c, many? c with
    | some d, _ => some (.single d, rest)
    | none, some p => some (.many p, rest)
    | none, none => none
  | c :: rest => if c = '[' || c = ']' || c = '\\' then none else some (.single c, rest)
  | [] => none

/-- Reads what follows a member inside brackets: the end of a range, or nothing. -/
def range? (c : Char) (cs : List Char) : Option ((Char → Bool) × List Char) :=
  match cs with
  | '-' :: d :: rest =>
    if d = ']' || d = '[' then some (just c, cs)
    else
      match member? (d :: rest) with
      | some (.single last, rest) => if c ≤ last then some (fun x => c ≤ x && x ≤ last, rest) else none
      | _ => none
  | _ => some (just c, cs)

/-- Reads the members of brackets, and the brackets whose characters are taken away. -/
def members? : Nat → (Char → Bool) → Bool → List Char → Option ((Char → Bool) × List Char)
  | 0, _, _, _ => none
  | fuel + 1, inside, isFirst, cs =>
    match cs with
    | ']' :: rest => if isFirst then none else some (inside, rest)
    | '-' :: '[' :: rest => do
      let isNegative := rest.head? = some '^'
      let (other, rest) ← members? fuel (fun _ => false) true (rest.drop (if isNegative then 1 else 0))
      let other := if isNegative then fun x => !other x else other
      match rest with
      | ']' :: rest => some (fun x => inside x && !other x, rest)
      | _ => none
    | cs =>
      match member? cs with
      | some (.many p, rest) => members? fuel (join inside p) false rest
      | some (.single c, rest) => do
        let (p, rest) ← range? c rest
        members? fuel (join inside p) false rest
      | none => none

/-- Reads brackets behind the opening one. -/
def brackets? (cs : List Char) : Option ((Char → Bool) × List Char) :=
  match cs with
  | '^' :: rest => (members? (rest.length + 1) (fun _ => false) true rest).map
      fun (p, rest) => (fun x => !p x, rest)
  | cs => members? (cs.length + 1) (fun _ => false) true cs

/-! ### Expressions -/

/-- Reads the bounds of a repetition behind the opening brace. -/
def bounds? (cs : List Char) : Option (Nat × Option Nat × List Char) :=
  let least := cs.takeWhile Char.isDigit
  if least.isEmpty then none
  else
    match cs.drop least.length with
    | '\x7d' :: rest => some (Datatype.natOf least, some (Datatype.natOf least), rest)
    | ',' :: rest =>
      let most := rest.takeWhile Char.isDigit
      match rest.drop most.length with
      | '\x7d' :: rest =>
        let bound := if most.isEmpty then none else some (Datatype.natOf most)
        if (bound.map (decide <| Datatype.natOf least ≤ ·)).getD true then
          some (Datatype.natOf least, bound, rest)
        else none
      | _ => none
    | _ => none

/-- Reads how often something may be repeated, if that is told. -/
def quantified? (e : Pattern) (cs : List Char) : Option (Pattern × List Char) :=
  match cs with
  | '?' :: rest => some (e.repeated 0 (some 1), rest)
  | '*' :: rest => some (e.repeated 0 none, rest)
  | '+' :: rest => some (e.repeated 1 none, rest)
  | '\x7b' :: rest => (bounds? rest).map fun (least, most, rest) => (e.repeated least most, rest)
  | cs => some (e, cs)

mutual

/-- Reads alternatives up to a closing parenthesis or the end. -/
def alternatives? : Nat → List Char → Option (Pattern × List Char)
  | 0, _ => none
  | fuel + 1, cs => do
    let (e, rest) ← pieces? fuel cs
    match rest with
    | '|' :: rest =>
      let (d, rest) ← alternatives? fuel rest
      some (.either e d, rest)
    | rest => some (e, rest)

/-- Reads pieces one behind the other. -/
def pieces? : Nat → List Char → Option (Pattern × List Char)
  | 0, _ => none
  | fuel + 1, cs =>
    match cs with
    | [] => some (.done, [])
    | c :: _ =>
      if c = '|' || c = ')' then some (.done, cs)
      else do
        let (e, rest) ← atom? fuel cs
        let (e, rest) ← quantified? e rest
        let (d, rest) ← pieces? fuel rest
        some (e.andThen d, rest)

/-- Reads one character, an escape, brackets or parentheses. -/
def atom? : Nat → List Char → Option (Pattern × List Char)
  | 0, _ => none
  | fuel + 1, cs =>
    match cs with
    | '(' :: rest =>
      match alternatives? fuel rest with
      | some (e, ')' :: rest) => some (e, rest)
      | _ => none
    | '[' :: rest => (brackets? rest).map fun (p, rest) => (.one p, rest)
    | '.' :: rest => some (.one fun x => x ≠ '\n' && x ≠ '\r', rest)
    | '\\' :: c :: rest =>
      match single? c, many? c with
      | some d, _ => some (.one (just d), rest)
      | none, some p => some (.one p, rest)
      | none, none => none
    | c :: rest =>
      if "?*+\x7b\x7d]\\".toList.contains c then none else some (.one (just c), rest)
    | [] => none

end

/-- The pattern that characters spell. -/
def ofChars? (cs : List Char) : Option Pattern :=
  match alternatives? (3 * cs.length + 3) cs with
  | some (e, []) => some e
  | _ => none

end Pattern

end SchemaGate.Schema
