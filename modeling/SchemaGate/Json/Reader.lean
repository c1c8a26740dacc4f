import SchemaGate.Association
import SchemaGate.Json.Value
import SchemaGate.Text.Cut

/-!
Reading JSON. Besides the standard's values, `NaN`, `Infinity` and `-Infinity` are numbers, and an
escape may spell a surrogate on its own. A repeated field name keeps its first place and its last
value. Lists and objects may be nested only so deep. A fault names the place where reading stopped: line,
column and number of characters before.
-/

namespace SchemaGate.Json

/-- Why a text is not JSON. Each syntactic fault carries the text from where it was found. -/
inductive Fault where
  | syntaxAt (message : Text) (rest : Text)
  | longNumber (digits : Nat)
  /-- There is no room for a list or an object inside so many others. -/
  | tooDeep (kind : Text)

/-- The room that is left for values inside a list or an object. If there are no bounds, there are none
inside. -/
def inside (kind : Text) : Option Nat → Except Fault (Option Nat)
  | none => .ok none
  | some 0 => .error (.tooDeep kind)
  | some (room + 1) => .ok (some room)

/-- White space of JSON. -/
def isSpace (c : CodePoint) : Bool :=
  c = .char ' ' || c = .char '\t' || c = .char '\n' || c = .char '\r'

def skipSpace (t : Text) : Text := t.dropWhile isSpace

/-- The text behind a literal word. -/
def literal? (word : String) (t : Text) : Option Text := dropPrefix? (Text.ofString word) t

def isDigit (c : CodePoint) : Bool := 0x30 ≤ c.value && c.value ≤ 0x39

/-- The number a run of ASCII digits spells. -/
def digitsValue (digits : Text) : Nat := digits.foldl (fun n c => 10 * n + (c.value - 0x30)) 0

/-- Four hexadecimal digits at the front of a text. -/
def hexFour? : Text → Option (Nat × Text)
  | a :: b :: c :: d :: rest => do
    let a ← a.hexDigit?
    let b ← b.hexDigit?
    let c ← c.hexDigit?
    let d ← d.hexDigit?
    return (((a * 16 + b) * 16 + c) * 16 + d, rest)
  | _ => none

/-- What the character after a backslash stands for. -/
def simpleEscape? : CodePoint → Option CodePoint
  | .char '"' => some (.char '"')
  | .char '\\' => some (.char '\\')
  | .char '/' => some (.char '/')
  | .char 'b' => some (.char '\x08')
  | .char 'f' => some (.char '\x0c')
  | .char 'n' => some (.char '\n')
  | .char 'r' => some (.char '\r')
  | .char 't' => some (.char '\t')
  | _ => none

/-- A code unit, and the one escaped behind it if the two are a surrogate pair. A pair is joined
only when something follows it, as the closing quote does in every complete string. -/
def joinPair (high : Nat) (rest : Text) : Except Fault (CodePoint × Text) :=
  let alone := ((CodePoint.ofValue? high).getD default, rest)
  if 0xD800 ≤ high ∧ high < 0xDC00 ∧ 6 < rest.length then
    match rest with
    | .char '\\' :: .char 'u' :: rest' =>
      match hexFour? rest' with
      | none => .error (.syntaxAt "Invalid \\uXXXX escape" (.char 'u' :: rest'))
      | some (low, rest'') =>
        if 0xDC00 ≤ low ∧ low < 0xE000 then
          .ok ((CodePoint.ofValue? (0x10000 + (high - 0xD800) * 0x400 + (low - 0xDC00))).getD
            default, rest'')
        else .ok alone
    | _ => .ok alone
  else .ok alone

/-- One escaped character, from behind the backslash. -/
def readEscape (opening : Text) : Text → Except Fault (CodePoint × Text)
  | [] => .error (.syntaxAt "Unterminated string starting at" opening)
  | .char 'u' :: rest =>
    match (if 4 < rest.length then hexFour? rest else none) with
    | none => .error (.syntaxAt "Invalid \\uXXXX escape" (.char 'u' :: rest))
    | some (n, rest') => joinPair n rest'
  | c :: rest =>
    match simpleEscape? c with
    | some e => .ok (e, rest)
    | none => .error (.syntaxAt "Invalid \\escape" (.char '\\' :: c :: rest))

/-- The characters of a string from behind the opening quote. `opening` is the text from that quote
on, and `fuel` bounds the number of characters. -/
def readString (opening : Text) : Nat → Text → Except Fault (Text × Text)
  | 0, _ => .error (.syntaxAt "Unterminated string starting at" opening)
  | _, [] => .error (.syntaxAt "Unterminated string starting at" opening)
  | fuel + 1, c :: rest =>
    if c = .char '"' then .ok ([], rest)
    else if c = .char '\\' then do
      let (e, rest') ← readEscape opening rest
      let (s, rest'') ← readString opening fuel rest'
      return (e :: s, rest'')
    else if c.value ≤ 0x1F then .error (.syntaxAt "Invalid control character at" (c :: rest))
    else do
      let (s, rest') ← readString opening fuel rest
      return (c :: s, rest')

/-- The sign at the front of a text, if there is one. -/
def takeSign : Text → Text × Text
  | .char '-' :: rest => ([.char '-'], rest)
  | t => ([], t)

/-- The digits at the front of a text. Behind a zero at the very front there are no more. -/
def takeWhole : Text → Text × Text
  | .char '0' :: rest => ([.char '0'], rest)
  | t => (t.takeWhile isDigit, t.dropWhile isDigit)

/-- The fraction at the front of a text: a point and at least one digit. -/
def takeFraction : Text → Text × Text
  | .char '.' :: d :: rest =>
    if isDigit d then (.char '.' :: (d :: rest).takeWhile isDigit, (d :: rest).dropWhile isDigit)
    else ([], .char '.' :: d :: rest)
  | t => ([], t)

/-- The exponent at the front of a text: `e`, an optional sign and at least one digit. -/
def takeExponent : Text → Text × Text
  | e :: rest =>
    if e = .char 'e' ∨ e = .char 'E' then
      let sign := (rest.take 1).filter fun c => c = .char '+' || c = .char '-'
      let digits := (rest.drop sign.length).takeWhile isDigit
      if digits.isEmpty then ([], e :: rest)
      else (e :: sign ++ digits, (rest.drop sign.length).dropWhile isDigit)
    else ([], e :: rest)
  | [] => ([], [])

/-- A number at the front of a text. -/
def readNumber (start : Text) : Except Fault (Value × Text) :=
  let (sign, t) := takeSign start
  let (whole, rest) := takeWhole t
  if whole.isEmpty then .error (.syntaxAt "Expecting value" start)
  else
    let (fraction, rest) := takeFraction rest
    let (exponent, rest) := takeExponent rest
    if fraction.isEmpty && exponent.isEmpty then
      if digitLimit < whole.length then .error (.longNumber whole.length)
      else
        let n : Int := digitsValue whole
        .ok (.int (if sign.isEmpty then n else -n), rest)
    else .ok (.decimal (sign ++ whole ++ fraction ++ exponent), rest)

/-- The words that are values. -/
def words : List (String × Value) :=
  [("null", .null), ("true", .bool true), ("false", .bool false), ("NaN", .decimal "nan"),
   ("Infinity", .decimal "inf"), ("-Infinity", .decimal "-inf")]

/-- A word or a number at the front of a text. -/
def readPlain (t : Text) : Except Fault (Value × Text) :=
  match words.findSome? fun (w, v) => (literal? w t).map fun rest => (v, rest) with
  | some found => .ok found
  | none => readNumber t

mutual

/-- A value at the front of a text. `fuel` bounds the number of values and separators, and `room` how
deep they are nested. -/
def readValue : Nat → Option Nat → Text → Except Fault (Value × Text)
  | 0, _, t => .error (.syntaxAt "Expecting value" t)
  | _, _, [] => .error (.syntaxAt "Expecting value" [])
  | fuel + 1, room, c :: rest =>
    if c = .char '"' then do
      let (s, rest') ← readString (c :: rest) (rest.length + 1) rest
      return (.text s, rest')
    else if c = .char '[' then do
      let room ← inside "array" room
      match skipSpace rest with
      | .char ']' :: rest' => .ok (.list [], rest')
      | t =>
        let (items, rest') ← readItems fuel room t
        return (.list items, rest')
    else if c = .char '\x7b' then do
      let room ← inside "object" room
      match skipSpace rest with
      | .char '\x7d' :: rest' => .ok (.object [], rest')
      | t =>
        let (fields, rest') ← readFields fuel room [] t
        return (.object fields, rest')
    else readPlain (c :: rest)

/-- The items of a list up to its closing bracket; at least one. -/
def readItems : Nat → Option Nat → Text → Except Fault ((List Value) × Text)
  | 0, _, t => .error (.syntaxAt "Expecting value" t)
  | fuel + 1, room, t => do
    let (v, rest) ← readValue fuel room t
    match skipSpace rest with
    | .char ']' :: rest' => return ([v], rest')
    | .char ',' :: rest' =>
      let (vs, rest'') ← readItems fuel room (skipSpace rest')
      return (v :: vs, rest'')
    | rest' => throw (.syntaxAt "Expecting ',' delimiter" rest')

/-- The fields of an object up to its closing brace; at least one. -/
def readFields : Nat → Option Nat → List (Text × Value) → Text →
    Except Fault ((List (Text × Value)) × Text)
  | 0, _, _, t => .error (.syntaxAt "Expecting value" t)
  | fuel + 1, room, before, t =>
    match t with
    | .char '"' :: rest => do
      let (name, rest) ← readString t (rest.length + 1) rest
      match skipSpace rest with
      | .char ':' :: rest' =>
        let (v, rest) ← readValue fuel room (skipSpace rest')
        let fields := Association.put name v before
        match skipSpace rest with
        | .char '\x7d' :: rest' => return (fields, rest')
        | .char ',' :: rest' => readFields fuel room fields (skipSpace rest')
        | rest' => throw (.syntaxAt "Expecting ',' delimiter" rest')
      | rest' => throw (.syntaxAt "Expecting ':' delimiter" rest')
    | _ => .error (.syntaxAt "Expecting property name enclosed in double quotes" t)

end

/-- The message of a fault found in `whole`. -/
def Fault.message (whole : Text) : Fault → Text
  | .syntaxAt message rest =>
    let before := whole.take (whole.length - rest.length)
    let line := before.count (.char '\n') + 1
    let column := (before.reverse.takeWhile (· ≠ .char '\n')).length + 1
    message ++ ": line " ++ Text.ofNat line ++ " column " ++ Text.ofNat column ++ " (char "
      ++ Text.ofNat before.length ++ ")"
  | .longNumber digits =>
    "Exceeds the limit (" ++ Text.ofNat digitLimit
      ++ " digits) for integer string conversion: value has " ++ Text.ofNat digits
      ++ " digits; use sys.set_int_max_str_digits() to increase the limit"
  | .tooDeep kind =>
    "maximum recursion depth exceeded while decoding a JSON " ++ kind ++ " from a unicode string"

/-- The value a text spells, white space around it aside; `room` bounds how deep values are nested. -/
def read (room : Option Nat) (t : Text) : Except Fault Value :=
  match t with
  | .char '\ufeff' :: _ => .error (.syntaxAt "Unexpected UTF-8 BOM (decode using utf-8-sig)" t)
  | _ => do
    let (v, rest) ← readValue (2 * t.length + 2) room (skipSpace t)
    match skipSpace rest with
    | [] => return v
    | rest' => throw (.syntaxAt "Extra data" rest')

end SchemaGate.Json
