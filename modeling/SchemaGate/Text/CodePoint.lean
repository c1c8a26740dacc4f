/-!
Text as it crosses the borders of the program. A table or a settings file may spell half of a
surrogate pair on its own (`\ud83d`), which is no character, so text is a list of code points: a
code point is a character or one of the 2048 surrogates. Every `String` is such a text.
-/

namespace SchemaGate

/-- A code point: a character, or the surrogate `0xD800 + i`. -/
inductive CodePoint where
  | char (c : Char)
  | surrogate (i : Fin 0x800)
  deriving DecidableEq

instance : Inhabited CodePoint := ⟨.char ' '⟩

/-- Text is a list of code points. -/
abbrev Text := List CodePoint

namespace CodePoint

/-- The number of a code point. -/
def value : CodePoint → Nat
  | .char c => c.toNat
  | .surrogate i => 0xD800 + i.val

/-- The code point of a number, if it has one. -/
def ofValue? (n : Nat) : Option CodePoint :=
  if h : n.isValidChar then some (.char (Char.ofNatAux n h))
  else if h : 0xD800 ≤ n ∧ n < 0xE000 then some (.surrogate ⟨n - 0xD800, by omega⟩)
  else none

/-- The character behind a code point; a surrogate has none. -/
def char? : CodePoint → Option Char
  | .char c => some c
  | .surrogate _ => none

instance : Coe Char CodePoint := ⟨.char⟩

end CodePoint

namespace Text

/-- The text of a string. -/
def ofString (s : String) : Text := s.toList.map .char

/-- The string of a text that holds characters only. -/
def toString? (t : Text) : Option String := (t.mapM CodePoint.char?).map String.ofList

/-- The decimal digits of a number. -/
def ofNat (n : Nat) : Text := ofString (toString n)

/-- The decimal digits of an integer, with a minus sign before a negative one. -/
def ofInt (n : Int) : Text := ofString (toString n)

/-- The order of texts by the numbers of their code points. -/
def isBeforeOrSame : Text → Text → Bool
  | [], _ => true
  | _ :: _, [] => false
  | a :: s, b :: t =>
    if a.value = b.value then isBeforeOrSame s t else Nat.blt a.value b.value

/-- Text pieces with a separator between them. -/
def join (separator : Text) (pieces : List Text) : Text := (pieces.intersperse separator).flatten

end Text

instance : Coe String Text := ⟨Text.ofString⟩

end SchemaGate
