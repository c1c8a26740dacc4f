import SchemaGate.Text.CodePoint
import SchemaGate.Text.Letters
import SchemaGate.Text.Printable
import SchemaGate.Text.Digits

/-!
Character classes: blanks, low characters, letters, printable characters and digits. The larger
classes are Unicode's and come from tables; the tables are asked only outside ASCII.
-/

namespace SchemaGate.CodePoint

/-- Is the number inside one of the ranges? -/
def within (ranges : List (Nat × Nat)) (n : Nat) : Bool :=
  ranges.any fun r => r.1 ≤ n && n ≤ r.2

/-- Numbers of the blanks: white space, the information separators and the Unicode spaces. -/
def blankRanges : List (Nat × Nat) :=
  [(0x9, 0xD), (0x1C, 0x20), (0x85, 0x85), (0xA0, 0xA0), (0x1680, 0x1680), (0x2000, 0x200A),
   (0x2028, 0x2029), (0x202F, 0x202F), (0x205F, 0x205F), (0x3000, 0x3000)]

/-- White space of any script, the information separators included. -/
def isBlank (c : CodePoint) : Bool := within blankRanges c.value

/-- The space and everything below it. -/
def isLow (c : CodePoint) : Bool := c.value ≤ 0x20

/-- A letter of any script. -/
def isLetter (c : CodePoint) : Bool :=
  let n := c.value
  if n < 0x80 then (0x41 ≤ n && n ≤ 0x5A) || (0x61 ≤ n && n ≤ 0x7A) else within letterRanges n

/-- May the character stand in quoted text as it is? -/
def isPrintable (c : CodePoint) : Bool :=
  let n := c.value
  if n < 0x80 then 0x20 ≤ n && n < 0x7F else within printableRanges n

/-- The value of a decimal digit of any script. -/
def decimal? (c : CodePoint) : Option Nat :=
  let n := c.value
  (digitZeros.find? fun z => z ≤ n && n < z + 10).map (n - ·)

/-- The value of a hexadecimal digit. -/
def hexDigit? (c : CodePoint) : Option Nat :=
  let n := c.value
  if 0x30 ≤ n && n ≤ 0x39 then some (n - 0x30)
  else if 0x41 ≤ n && n ≤ 0x46 then some (n - 0x41 + 10)
  else if 0x61 ≤ n && n ≤ 0x66 then some (n - 0x61 + 10)
  else none

end SchemaGate.CodePoint

namespace SchemaGate.Text

/-- The text without the blanks it starts with. -/
def trimLeft (t : Text) : Text := t.dropWhile CodePoint.isBlank

/-- The text without the characters of a class it ends with. -/
def dropEnd (p : CodePoint → Bool) (t : Text) : Text := (t.reverse.dropWhile p).reverse

/-- The text without the blanks it starts and ends with. -/
def trim (t : Text) : Text := dropEnd CodePoint.isBlank t.trimLeft

/-- Is there nothing but blanks? -/
def isBlank (t : Text) : Bool := t.all CodePoint.isBlank

/-- The words of a text: its longest runs without a blank. -/
def words (t : Text) : List Text :=
  let step := fun (c : CodePoint) (r : List Text × Bool) =>
    if c.isBlank then (r.1, false)
    else match r with
      | (w :: ws, true) => ((c :: w) :: ws, true)
      | (ws, _) => ([c] :: ws, true)
  (t.foldr step ([], false)).1

/-- The characters of a number written in the given base with digits from `0` to `f`. -/
def hexDigits (width n : Nat) : Text :=
  let digits := ofString (String.ofList (Nat.toDigits 16 n))
  List.replicate (width - digits.length) (.char '0') ++ digits

end SchemaGate.Text
