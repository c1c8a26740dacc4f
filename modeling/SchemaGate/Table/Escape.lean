import SchemaGate.Text.Classes

/-!
Escapes of a mapping table. A backslash stands before a character that would be read otherwise; some
letters after it stand for white space, and `u` with a number of four characters for the code point
of that number. A number that cannot be read leaves the `u` behind.
-/

namespace SchemaGate.Table

/-- White space of ASCII. -/
def isAsciiSpace (c : CodePoint) : Bool := c.value = 0x20 || (0x9 ≤ c.value && c.value ≤ 0xD)

/-- A character as the ASCII character that means the same in a number. -/
def toAsciiDigit (c : CodePoint) : CodePoint :=
  if c.value < 0x7F then c
  else if c.isBlank then .char ' '
  else match c.decimal? with
    | some d => (CodePoint.ofValue? (0x30 + d)).getD c
    | none => c

/-- The value of hexadecimal digits, with single underscores allowed between them. -/
def groupedHex? (digits : Text) : Option Nat :=
  let step := fun (r : Option (Nat × Bool)) (c : CodePoint) =>
    match r with
    | none => none
    | some (n, afterDigit) =>
      if c = .char '_' then (if afterDigit then some (n, false) else none)
      else c.hexDigit?.map fun d => (16 * n + d, true)
  match digits.foldl step (some (0, false)) with
  | some (n, true) => some n
  | _ => none

/-- The digits behind a `0x`, of which one underscore may stand in front. -/
def dropHexMark : Text → Text
  | .char '0' :: .char x :: rest =>
    if x = 'x' ∨ x = 'X' then
      match rest with
      | .char '_' :: rest => rest
      | _ => rest
    else .char '0' :: .char x :: rest
  | t => t

/-- A sign in front of a number. -/
def splitSign : Text → Bool × Text
  | .char '+' :: rest => (false, rest)
  | .char '-' :: rest => (true, rest)
  | t => (false, t)

/-- The number in an escape. Besides plain digits it may have white space around it, a sign, a `0x`
and underscores between digits, and digits of any script count. -/
def escapeNumber? (t : Text) : Option Nat :=
  let ascii := t.map toAsciiDigit
  let trimmed := Text.dropEnd isAsciiSpace (ascii.dropWhile isAsciiSpace)
  let (negative, digits) := splitSign trimmed
  match groupedHex? (dropHexMark digits) with
  | some n => if negative && n != 0 then none else some n
  | none => none

/-- What a character after a backslash stands for. -/
def escaped : CodePoint → CodePoint
  | .char 't' => .char '\t'
  | .char 'n' => .char '\n'
  | .char 'r' => .char '\r'
  | .char 'f' => .char '\x0c'
  | c => c

/-- The code point that the four characters after `\u` spell. -/
def escapedUnit? (a b c d : CodePoint) : Option CodePoint :=
  (escapeNumber? [a, b, c, d]).bind CodePoint.ofValue?

/-- The text that a written text stands for. -/
def unescape : Text → Text
  | .char '\\' :: .char 'u' :: a :: b :: c :: d :: rest =>
    match escapedUnit? a b c d with
    | some unit => unit :: unescape rest
    | none => .char 'u' :: unescape (a :: b :: c :: d :: rest)
  | .char '\\' :: c :: rest => escaped c :: unescape rest
  | c :: rest => c :: unescape rest
  | [] => []

end SchemaGate.Table
