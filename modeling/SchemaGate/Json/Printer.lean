import SchemaGate.Json.Value

/-!
Printing JSON in ASCII, either on one line or with every item and field on a line of its own, two
spaces deeper than its list or object. Characters beyond U+FFFF are written as surrogate pairs.
Over several lines a value is written piece by piece, as far as a number that is too long to write.
-/

namespace SchemaGate.Json

/-- One UTF-16 unit as an escape. -/
def unitEscape (n : Nat) : Text := "\\u" ++ Text.hexDigits 4 n

/-- One character inside a string. -/
def printChar (c : CodePoint) : Text :=
  let n := c.value
  if c = .char '"' then "\\\""
  else if c = .char '\\' then "\\\\"
  else if n = 10 then "\\n"
  else if n = 13 then "\\r"
  else if n = 9 then "\\t"
  else if n = 12 then "\\f"
  else if n = 8 then "\\b"
  else if 0x20 ≤ n ∧ n < 0x7F then [c]
  else if n < 0x10000 then unitEscape n
  else unitEscape (0xD800 + (n - 0x10000) / 0x400) ++ unitEscape (0xDC00 + (n - 0x10000) % 0x400)

/-- A string with its quotes. -/
def printString (t : Text) : Text := .char '"' :: t.flatMap printChar ++ [.char '"']

/-- A new line that is indented `depth` levels. -/
def newline (depth : Nat) : Text := .char '\n' :: List.replicate (2 * depth) (.char ' ')

mutual

/-- The value over several lines, starting at the given depth. -/
def printAt (depth : Nat) : Value → Text
  | .null => "null"
  | .bool true => "true"
  | .bool false => "false"
  | .int n => Text.ofInt n
  | .decimal literal => literal
  | .text t => printString t
  | .list [] => "[]"
  | .list (v :: vs) =>
    "[" ++ newline (depth + 1) ++ printAt (depth + 1) v ++ printItems (depth + 1) vs
      ++ newline depth ++ "]"
  | .object [] => "\x7b\x7d"
  | .object ((k, v) :: fs) =>
    "\x7b" ++ newline (depth + 1) ++ printString k ++ ": " ++ printAt (depth + 1) v
      ++ printFields (depth + 1) fs ++ newline depth ++ "\x7d"

/-- The further items of a list. -/
def printItems (depth : Nat) : List Value → Text
  | [] => []
  | v :: vs => "," ++ newline depth ++ printAt depth v ++ printItems depth vs

/-- The further fields of an object. -/
def printFields (depth : Nat) : List (Text × Value) → Text
  | [] => []
  | (k, v) :: fs =>
    "," ++ newline depth ++ printString k ++ ": " ++ printAt depth v ++ printFields depth fs

end

/-- The value over several lines. -/
def printIndented (v : Value) : Text := printAt 0 v

mutual

/-- What is written in front of the first number of a value that is too long, if there is one. The
bracket or comma in front of an item is written together with a number, but ahead of a list or an
object. -/
def frontAt (depth : Nat) : Value → Option Text
  | .int n => if (Value.int n).isLong then some [] else none
  | .list (v :: vs) =>
    let opening := "[" ++ newline (depth + 1)
    match frontAt (depth + 1) v with
    | some front => some (if v.isLong then [] else opening ++ front)
    | none => (frontOfItems (depth + 1) vs).map fun front => opening ++ printAt (depth + 1) v ++ front
  | .object ((k, v) :: fs) =>
    let opening := "\x7b" ++ newline (depth + 1) ++ printString k ++ ": "
    match frontAt (depth + 1) v with
    | some front => some (opening ++ front)
    | none => (frontOfFields (depth + 1) fs).map fun front => opening ++ printAt (depth + 1) v ++ front
  | _ => none

/-- What is written of the further items of a list in front of such a number. -/
def frontOfItems (depth : Nat) : List Value → Option Text
  | [] => none
  | v :: vs =>
    let separator := "," ++ newline depth
    match frontAt depth v with
    | some front => some (if v.isLong then [] else separator ++ front)
    | none => (frontOfItems depth vs).map fun front => separator ++ printAt depth v ++ front

/-- What is written of the further fields of an object in front of such a number. -/
def frontOfFields (depth : Nat) : List (Text × Value) → Option Text
  | [] => none
  | (k, v) :: fs =>
    let opening := "," ++ newline depth ++ printString k ++ ": "
    match frontAt depth v with
    | some front => some (opening ++ front)
    | none => (frontOfFields depth fs).map fun front => opening ++ printAt depth v ++ front

end

mutual

/-- The value on one line. -/
def print : Value → Text
  | .null => "null"
  | .bool true => "true"
  | .bool false => "false"
  | .int n => Text.ofInt n
  | .decimal literal => literal
  | .text t => printString t
  | .list items => "[" ++ Text.join "," (printAll items) ++ "]"
  | .object fields =>
    "\x7b" ++ Text.join "," (printNamed fields) ++ "\x7d"

/-- Each item on one line. -/
def printAll : List Value → List Text
  | [] => []
  | v :: vs => print v :: printAll vs

/-- Each field on one line. -/
def printNamed : List (Text × Value) → List Text
  | [] => []
  | (k, v) :: fs => (printString k ++ ":" ++ print v) :: printNamed fs

end

end SchemaGate.Json
