import SchemaGate.Text.Classes
import SchemaGate.Text.Capitals

/-!
Letter case. Small forms follow Unicode's full mapping. Capital forms are needed only to compare
with names spelled in ASCII capitals, so a character whose capital form leaves ASCII keeps itself.
-/

namespace SchemaGate.CodePoint

/-- The small form of a capital; any other character is its own. -/
def toSmall (c : CodePoint) : CodePoint :=
  let n := c.value
  if 0x41 ≤ n && n ≤ 0x5A then (ofValue? (n + 32)).getD c
  else if n < 0x80 then c
  else
    match capitalRuns.find? fun r => r.1 ≤ n && n ≤ r.2.1 && (n - r.1) % r.2.2.1 == 0 with
    | some r => (ofValue? (Int.toNat (n + r.2.2.2))).getD c
    | none => c

/-- The capital form where it is spelled in ASCII. -/
def toAsciiCapital : CodePoint → List CodePoint
  | .char 'ß' => [.char 'S', .char 'S']
  | .char 'ı' => [.char 'I']
  | .char 'ſ' => [.char 'S']
  | .char 'ﬀ' => [.char 'F', .char 'F']
  | .char 'ﬁ' => [.char 'F', .char 'I']
  | .char 'ﬂ' => [.char 'F', .char 'L']
  | .char 'ﬃ' => [.char 'F', .char 'F', .char 'I']
  | .char 'ﬄ' => [.char 'F', .char 'F', .char 'L']
  | .char 'ﬅ' | .char 'ﬆ' => [.char 'S', .char 'T']
  | .char c => [.char c.toUpper]
  | c => [c]

end SchemaGate.CodePoint

namespace SchemaGate.Text

/-- Small forms, given the characters before in reverse. A sigma that ends a word has a form of
its own, and the dotted capital I keeps its dot. -/
def lowerAfter : Text → Text → Text
  | _, [] => []
  | before, .char 'Σ' :: rest =>
    let final := (before.head?.any CodePoint.isLetter) && !(rest.head?.any CodePoint.isLetter)
    .char (if final then 'ς' else 'σ') :: lowerAfter (.char 'Σ' :: before) rest
  | before, .char 'İ' :: rest =>
    .char 'i' :: .char '\u0307' :: lowerAfter (.char 'İ' :: before) rest
  | before, c :: rest => c.toSmall :: lowerAfter (c :: before) rest

/-- The text in small letters. -/
def lower (t : Text) : Text := lowerAfter [] t

/-- The text in capitals, as far as they are spelled in ASCII. -/
def asciiUpper (t : Text) : Text := t.flatMap CodePoint.toAsciiCapital

end SchemaGate.Text
