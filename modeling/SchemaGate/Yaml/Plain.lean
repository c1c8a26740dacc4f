import SchemaGate.Json.Reader
import SchemaGate.Text.LetterCase

/-!
What a plain scalar means. A scalar without quotes and tags is null, a truth value, a number, a
timestamp or one of two special keys when it is spelled like one, and a text otherwise. The spellings
are those of version 1.1 of the format: words for truth values, octal numbers with a leading zero,
and numbers in base sixty.
-/

namespace SchemaGate.Yaml

/-- What a scalar can mean. -/
inductive Kind where
  | null
  | bool
  | int
  | float
  | timestamp
  | merge
  | value
  | text
  deriving DecidableEq

/-- Is the text one of the words? -/
def isOneOf (words : List String) (t : Text) : Bool := words.any fun w => t = (w : Text)

def isDigit (c : CodePoint) : Bool := 0x30 ≤ c.value && c.value ≤ 0x39

def isUnderscore (c : CodePoint) : Bool := c = .char '_'

/-- A digit or an underscore between digits. -/
def isDigitLike (c : CodePoint) : Bool := isDigit c || isUnderscore c

/-- The text behind an optional sign. -/
def dropSign : Text → Text
  | c :: rest => if c = .char '+' ∨ c = .char '-' then rest else c :: rest
  | [] => []

/-- Is the text a run of characters of a class, with at least one? -/
def isRun (p : CodePoint → Bool) (t : Text) : Bool := !t.isEmpty && t.all p

/-- Digits and underscores that start with a digit. -/
def isNumeral : Text → Bool
  | c :: rest => isDigit c && rest.all isDigitLike
  | [] => false

/-- The pieces between the occurrences of a character; always at least one. -/
def splitAt (separator : CodePoint) : Text → List Text
  | [] => [[]]
  | c :: rest =>
    if c = separator then [] :: splitAt separator rest
    else
      match splitAt separator rest with
      | piece :: pieces => (c :: piece) :: pieces
      | [] => [[c]]

/-- A digit of base sixty in decimals. -/
def isSixtieth : Text → Bool
  | [a] => isDigit a
  | [a, b] => 0x30 ≤ a.value && a.value ≤ 0x35 && isDigit b
  | _ => false

/-- At least two digits of base sixty, the first of any size. -/
def isSexagesimal (t : Text) : Bool :=
  match splitAt (.char ':') t with
  | head :: piece :: pieces => isNumeral head && (piece :: pieces).all isSixtieth
  | _ => false

def boolWords : List String :=
  ["yes", "Yes", "YES", "no", "No", "NO", "true", "True", "TRUE", "false", "False", "FALSE",
   "on", "On", "ON", "off", "Off", "OFF"]

/-- The words for true. -/
def trueWords : List String :=
  ["yes", "Yes", "YES", "true", "True", "TRUE", "on", "On", "ON"]

def nullWords : List String := ["", "~", "null", "Null", "NULL"]

/-- The text behind a two-letter mark of a base. -/
def afterBase? (mark : Char) : Text → Option Text
  | .char '0' :: .char c :: rest => if c = mark then some rest else none
  | _ => none

def isInt (t : Text) : Bool :=
  let u := dropSign t
  ((afterBase? 'b' u).any (isRun fun c => c = .char '0' || c = .char '1' || isUnderscore c))
    || ((afterBase? 'x' u).any (isRun fun c => c.hexDigit?.isSome || isUnderscore c))
    || match u with
      | .char '0' :: rest =>
        rest.all fun c => (0x30 ≤ c.value && c.value ≤ 0x37) || isUnderscore c
      | _ => isNumeral u || isSexagesimal u

/-- An exponent, which needs its sign, or nothing. -/
def isExponent : Text → Bool
  | [] => true
  | e :: s :: digits =>
    (e = .char 'e' || e = .char 'E') && (s = .char '+' || s = .char '-') && isRun isDigit digits
  | _ => false

def isFloat (t : Text) : Bool :=
  let u := dropSign t
  let whole := u.takeWhile (· ≠ .char '.')
  match u.dropWhile (· ≠ .char '.') with
  | _ :: behind =>
    let decimals := behind.takeWhile isDigitLike
    let rest := behind.dropWhile isDigitLike
    (isNumeral whole && isExponent rest)
      || (isSexagesimal whole && rest.isEmpty)
      || (whole.isEmpty && (t.head? = some (.char '.')) && isNumeral decimals && isExponent rest)
      || (whole.isEmpty && isOneOf ["inf", "Inf", "INF"] behind)
      || (t.head? = some (.char '.') && isOneOf ["nan", "NaN", "NAN"] behind)
  | [] => false

/-- A run of digits at the front of a text, of one of the given lengths. -/
def takeDigits? (least most : Nat) (t : Text) : Option (Nat × Text) :=
  let digits := t.takeWhile isDigit
  if least ≤ digits.length && digits.length ≤ most then
    some (Json.digitsValue digits, t.dropWhile isDigit)
  else none

def isTabOrSpace (c : CodePoint) : Bool := c = .char ' ' || c = .char '\t'

/-- The text behind a character, if it starts with it. -/
def after? (c : Char) : Text → Option Text
  | .char d :: rest => if d = c then some rest else none
  | _ => none

/-- A date and perhaps a time of day: year, month, day, hour, minute, second and the text behind. -/
structure Moment where
  date : Nat × Nat × Nat
  time : Option (Nat × Nat × Nat)
  /-- The offset of the zone in minutes, whatever its sign. -/
  zone : Option Nat

/-- A zone behind a time of day. -/
def readZone? (t : Text) : Option (Option Nat) :=
  match t.dropWhile isTabOrSpace with
  | [] => if t.isEmpty then some none else none
  | .char 'Z' :: rest => if rest.isEmpty then some (some 0) else none
  | c :: rest =>
    if c = .char '+' ∨ c = .char '-' then do
      let (hours, rest) ← takeDigits? 1 2 rest
      match rest with
      | [] => return some (60 * hours)
      | _ =>
        let (minutes, rest) ← takeDigits? 2 2 (← after? ':' rest)
        if rest.isEmpty then return some (60 * hours + minutes) else none
    else none

/-- The time of day of a timestamp. -/
def readTime? (t : Text) : Option ((Nat × Nat × Nat) × Option Nat) := do
  let rest ← match t with
    | .char 'T' :: rest | .char 't' :: rest => some rest
    | c :: rest => if isTabOrSpace c then some (rest.dropWhile isTabOrSpace) else none
    | [] => none
  let (hour, rest) ← takeDigits? 1 2 rest
  let (minute, rest) ← takeDigits? 2 2 (← after? ':' rest)
  let (second, rest) ← takeDigits? 2 2 (← after? ':' rest)
  let rest := match rest with
    | .char '.' :: fraction => fraction.dropWhile isDigit
    | _ => rest
  return ((hour, minute, second), ← readZone? rest)

/-- A timestamp. A date alone has two digits for month and day. -/
def readMoment? (t : Text) : Option Moment := do
  let (year, rest) ← takeDigits? 4 4 t
  let monthText ← after? '-' rest
  let (month, rest) ← takeDigits? 1 2 monthText
  let dayText ← after? '-' rest
  let (day, rest) ← takeDigits? 1 2 dayText
  if rest.isEmpty then
    if t.length = 10 then return ⟨(year, month, day), none, none⟩ else none
  else
    let (time, zone) ← readTime? rest
    return ⟨(year, month, day), some time, zone⟩

/-- What a plain scalar means. -/
def kindOf (t : Text) : Kind :=
  if isOneOf boolWords t then .bool
  else if isFloat t then .float
  else if isInt t then .int
  else if t = ("<<" : Text) then .merge
  else if isOneOf nullWords t then .null
  else if (readMoment? t).isSome then .timestamp
  else if t = ("=" : Text) then .value
  else .text

/-- The value of digits in a base, underscores left out. -/
def digitsIn (base : Nat) (t : Text) : Nat :=
  (t.filter fun c => !isUnderscore c).foldl (fun n c => base * n + c.hexDigit?.getD 0) 0

/-- The number that a scalar of kind `int` spells. -/
def intValue (t : Text) : Except Json.Fault Int :=
  let u := dropSign t
  let negate := fun (n : Nat) => if t.head? = some (.char '-') then -(n : Int) else n
  match afterBase? 'b' u, afterBase? 'x' u, u with
  | some digits, _, _ => .ok (negate (digitsIn 2 digits))
  | _, some digits, _ => .ok (negate (digitsIn 16 digits))
  | _, _, .char '0' :: digits => .ok (negate (digitsIn 8 digits))
  | _, _, _ =>
    let count := (u.filter fun c => !isUnderscore c).length
    match splitAt (.char ':') u with
    | [digits] =>
      if Json.digitLimit < count then .error (.longNumber count)
      else .ok (negate (digitsIn 10 digits))
    | pieces => .ok (negate (pieces.foldl (fun n p => 60 * n + digitsIn 10 p) 0))

end SchemaGate.Yaml
