import SchemaGate.Address
import SchemaGate.Xml.Doctype

/-!
The datatypes that every schema knows. A datatype tells which texts are values of it once white space
has been treated as the datatype wants, and how its values are compared.
-/

namespace SchemaGate.Schema

open Xml

/-- What becomes of white space in a value. -/
inductive Space where
  | keep
  | replace
  | collapse
  deriving DecidableEq

/-- How the values of a datatype are measured and compared. -/
inductive Measure where
  | characters
  | octets
  | number
  | other
  deriving DecidableEq

/-- A datatype that needs no definition. -/
structure Datatype where
  name : String
  space : Space
  measure : Measure
  /-- Is the value a list of words? -/
  isList : Bool
  fits : List Char → Bool

namespace Datatype

/-! ### Numbers -/

/-- The characters without a sign in front, and whether the sign is a minus. -/
def splitSign : List Char → Bool × List Char
  | '-' :: cs => (true, cs)
  | '+' :: cs => (false, cs)
  | cs => (false, cs)

/-- Are the characters digits, one at least? -/
def areDigits (cs : List Char) : Bool := !cs.isEmpty && cs.all Char.isDigit

/-- The number that digits spell. -/
def natOf (cs : List Char) : Nat := cs.foldl (fun n c => n * 10 + (c.toNat - '0'.toNat)) 0

/-- The integer that the characters spell. -/
def integer? (cs : List Char) : Option Int :=
  let (isNegative, digits) := splitSign cs
  if areDigits digits then some (if isNegative then -(natOf digits : Int) else natOf digits)
  else none

/-- A decimal number: an integer and the number of its digits behind the point. -/
structure Decimal where
  digits : Int
  places : Nat

/-- The decimal number that the characters spell. -/
def decimal? (cs : List Char) : Option Decimal :=
  let (isNegative, unsigned) := splitSign cs
  let whole := unsigned.takeWhile (· ≠ '.')
  let behind := (unsigned.drop whole.length).drop 1
  if areDigits (whole ++ behind) && unsigned.length ≤ whole.length + 1 + behind.length then
    let n : Int := natOf (whole ++ behind)
    some ⟨if isNegative then -n else n, behind.length⟩
  else none

/-- A power of ten. -/
def tenTo (n : Nat) : Nat := Nat.pow 10 n

/-- Is a decimal number at most another one? -/
def Decimal.le (a b : Decimal) : Bool :=
  decide (a.digits * tenTo b.places ≤ b.digits * tenTo a.places)

/-- Is the text an integer between bounds? -/
def isIntegerIn (least most : Option Int) (cs : List Char) : Bool :=
  match integer? cs with
  | none => false
  | some n => (least.map (decide <| · ≤ n)).getD true && (most.map (decide <| n ≤ ·)).getD true

/-- Is the text a floating point number? -/
def isFloat (cs : List Char) : Bool :=
  if cs = "INF".toList || cs = "-INF".toList || cs = "NaN".toList then true
  else
    let mantissa := cs.takeWhile fun c => c ≠ 'e' && c ≠ 'E'
    let exponent := cs.drop mantissa.length
    (decimal? mantissa).isSome && (exponent.isEmpty || (integer? (exponent.drop 1)).isSome)

/-! ### Dates and times -/

/-- Reads a number of exactly so many digits. -/
def takeNumber? (width : Nat) (cs : List Char) : Option (Nat × List Char) :=
  let digits := cs.take width
  if digits.length = width && areDigits digits then some (natOf digits, cs.drop width) else none

/-- Advances over a character. -/
def takeMark? (c : Char) : List Char → Option (List Char)
  | d :: rest => if d = c then some rest else none
  | [] => none

/-- How many days a month has. -/
def monthLength (year month : Nat) : Nat :=
  if month = 2 then
    if (year % 4 = 0 && year % 100 ≠ 0) || year % 400 = 0 then 29 else 28
  else if month = 4 || month = 6 || month = 9 || month = 11 then 30 else 31

/-- Reads a year of four digits or more. -/
def takeYear? (cs : List Char) : Option (Nat × List Char) :=
  let cs := if cs.head? = some '-' then cs.drop 1 else cs
  let digits := cs.takeWhile Char.isDigit
  let isPadded := 4 < digits.length && digits.head? = some '0'
  if 4 ≤ digits.length && !isPadded then some (natOf digits, cs.drop digits.length)
  else none

/-- Reads a month. -/
def takeMonth? (cs : List Char) : Option (Nat × List Char) := do
  let (n, rest) ← takeNumber? 2 cs
  if 1 ≤ n && n ≤ 12 then some (n, rest) else none

/-- Reads a day of a month. -/
def takeDay? (year month : Nat) (cs : List Char) : Option (List Char) := do
  let (n, rest) ← takeNumber? 2 cs
  if 1 ≤ n && n ≤ monthLength year month then some rest else none

/-- Reads a date. -/
def takeDate? (cs : List Char) : Option (List Char) := do
  let (year, cs) ← takeYear? cs
  let cs ← takeMark? '-' cs
  let (month, cs) ← takeMonth? cs
  let cs ← takeMark? '-' cs
  takeDay? year month cs

/-- Reads a time of day. The end of the day may be its twenty-fourth hour. -/
def takeTime? (cs : List Char) : Option (List Char) := do
  let (hour, cs) ← takeNumber? 2 cs
  let cs ← takeMark? ':' cs
  let (minute, cs) ← takeNumber? 2 cs
  let cs ← takeMark? ':' cs
  let (second, cs) ← takeNumber? 2 cs
  let (fraction, cs) ← match cs with
    | '.' :: rest =>
      let digits := rest.takeWhile Char.isDigit
      if digits.isEmpty then none else some (natOf digits, rest.drop digits.length)
    | cs => some (0, cs)
  if hour = 24 then if minute = 0 && second = 0 && fraction = 0 then some cs else none
  else if hour < 24 && minute < 60 && second < 60 then some cs else none

/-- Is what is left nothing or a time zone? -/
def isZone (cs : List Char) : Bool :=
  match cs with
  | [] => true
  | ['Z'] => true
  | sign :: rest =>
    (sign = '+' || sign = '-') && (do
      let (hour, cs) ← takeNumber? 2 rest
      let cs ← takeMark? ':' cs
      let (minute, cs) ← takeNumber? 2 cs
      return cs.isEmpty && minute < 60 && (hour < 14 || hour = 14 && minute = 0) : Option Bool).getD
        false

/-- Is the text what a reader takes, and a time zone behind it? -/
def isZoned (reading : List Char → Option (List Char)) (cs : List Char) : Bool :=
  ((reading cs).map isZone).getD false

/-- Reads a date and a time. -/
def takeDateTime? (cs : List Char) : Option (List Char) := do
  let cs ← takeDate? cs
  let cs ← takeMark? 'T' cs
  takeTime? cs

/-- Reads a year and a month. -/
def takeYearMonth? (cs : List Char) : Option (List Char) := do
  let (_, cs) ← takeYear? cs
  let cs ← takeMark? '-' cs
  return (← takeMonth? cs).2

/-- Reads a month and a day. -/
def takeMonthDay? (cs : List Char) : Option (List Char) := do
  let cs ← takeMark? '-' cs
  let cs ← takeMark? '-' cs
  let (month, cs) ← takeMonth? cs
  let cs ← takeMark? '-' cs
  takeDay? 2000 month cs

/-- Reads a day. -/
def takeDayOnly? (cs : List Char) : Option (List Char) := do
  let cs ← takeMark? '-' cs
  let cs ← takeMark? '-' cs
  let cs ← takeMark? '-' cs
  takeDay? 2000 1 cs

/-- Reads a month behind two hyphens. -/
def takeMonthOnly? (cs : List Char) : Option (List Char) := do
  let cs ← takeMark? '-' cs
  let cs ← takeMark? '-' cs
  return (← takeMonth? cs).2

/-- Reads parts of a duration: numbers with marks in a given order. How many there were comes with
the rest. -/
def takeParts : List Char → List Char → Nat × List Char
  | [], cs => (0, cs)
  | mark :: marks, cs =>
    let digits := cs.takeWhile Char.isDigit
    let behind := cs.drop digits.length
    let isFraction := mark = 'S' && behind.head? = some '.'
    let behind := if isFraction then (behind.drop 1).dropWhile Char.isDigit else behind
    if !digits.isEmpty && behind.head? = some mark then
      let (n, rest) := takeParts marks (behind.drop 1)
      (n + 1, rest)
    else takeParts marks cs

/-- Is the text a duration? -/
def isDuration (cs : List Char) : Bool :=
  let cs := if cs.head? = some '-' then cs.drop 1 else cs
  match cs with
  | 'P' :: cs =>
    let (days, cs) := takeParts ['Y', 'M', 'D'] cs
    match cs with
    | [] => 0 < days
    | 'T' :: cs =>
      let (hours, cs) := takeParts ['H', 'M', 'S'] cs
      cs.isEmpty && 0 < hours
    | _ => false
  | _ => false

/-! ### Other texts -/

/-- Is the text the name of a language? -/
def isLanguage (cs : List Char) : Bool :=
  match cs.splitOn '-' with
  | [] => false
  | first :: rest =>
    let short := fun (w : List Char) => !w.isEmpty && w.length ≤ 8
    short first && first.all Char.isAlpha && rest.all fun w => short w && w.all Char.isAlphanum

/-- Is the text an address, with characters that have to be escaped taken as they are? -/
def isAddress (cs : List Char) : Bool :=
  let plain := cs.map fun c =>
    if c.toNat < 0x20 || 0x7F ≤ c.toNat || "<>\"\x7b\x7d|\\^\x60 ".toList.contains c then '_' else c
  cs.isEmpty || (Address.ofChars? plain).isSome

/-- Is the text a name with a prefix or without one? -/
def isPrefixed (cs : List Char) : Bool :=
  match cs.splitOn ':' with
  | [n] => isPlainName n
  | [p, n] => isPlainName p && isPlainName n
  | _ => false

/-- Is the text bytes in hexadecimal digits? -/
def isHex (cs : List Char) : Bool := cs.length % 2 = 0 && cs.all Address.isHexDigit

/-- Is the text bytes in groups of six bits? -/
def isBase64 (cs : List Char) : Bool :=
  let cs := cs.filter (· ≠ ' ')
  let body := cs.takeWhile (· ≠ '=')
  let padding := cs.length - body.length
  cs.length % 4 = 0 && padding ≤ 2 && (cs.drop body.length).all (· = '=')
    && body.all fun c => c.isAlphanum || c = '+' || c = '/'

/-- An integer type with bounds. -/
def bounded (name : String) (least most : Option Int) : Datatype :=
  ⟨name, .collapse, .number, false, isIntegerIn least most⟩

/-- A type of names and the like. -/
def named (name : String) (fits : List Char → Bool) : Datatype :=
  ⟨name, .collapse, .characters, false, fits⟩

/-- A type of words with spaces between them. -/
def words (name : String) (fits : List Char → Bool) : Datatype :=
  ⟨name, .collapse, .characters, true, fun cs =>
    let ws := AttributeType.wordsOf cs
    !ws.isEmpty && ws.all fits⟩

/-- A type of moments and spans of time. -/
def temporal (name : String) (fits : List Char → Bool) : Datatype :=
  ⟨name, .collapse, .other, false, fits⟩

/-- All datatypes. -/
def all : List Datatype := [
  ⟨"anySimpleType", .keep, .characters, false, fun _ => true⟩,
  ⟨"string", .keep, .characters, false, fun _ => true⟩,
  ⟨"normalizedString", .replace, .characters, false, fun _ => true⟩,
  named "token" fun _ => true,
  named "language" isLanguage,
  named "Name" isName,
  named "NCName" isPlainName,
  named "ID" isPlainName,
  named "IDREF" isPlainName,
  named "ENTITY" isPlainName,
  named "NMTOKEN" isNameToken,
  words "NMTOKENS" isNameToken,
  words "IDREFS" isPlainName,
  words "ENTITIES" isPlainName,
  named "anyURI" isAddress,
  named "QName" isPrefixed,
  named "NOTATION" isPrefixed,
  ⟨"boolean", .collapse, .other, false, fun cs =>
    ["true", "false", "0", "1"].contains (String.ofList cs)⟩,
  ⟨"decimal", .collapse, .number, false, fun cs => (decimal? cs).isSome⟩,
  ⟨"float", .collapse, .number, false, isFloat⟩,
  ⟨"double", .collapse, .number, false, isFloat⟩,
  ⟨"hexBinary", .collapse, .octets, false, isHex⟩,
  ⟨"base64Binary", .collapse, .octets, false, isBase64⟩,
  temporal "duration" isDuration,
  temporal "dateTime" (isZoned takeDateTime?),
  temporal "date" (isZoned takeDate?),
  temporal "time" (isZoned takeTime?),
  temporal "gYear" (isZoned fun cs => (takeYear? cs).map Prod.snd),
  temporal "gYearMonth" (isZoned takeYearMonth?),
  temporal "gMonthDay" (isZoned takeMonthDay?),
  temporal "gMonth" (isZoned takeMonthOnly?),
  temporal "gDay" (isZoned takeDayOnly?),
  bounded "integer" none none,
  bounded "nonPositiveInteger" none (some 0),
  bounded "negativeInteger" none (some (-1)),
  bounded "nonNegativeInteger" (some 0) none,
  bounded "positiveInteger" (some 1) none,
  bounded "long" (some (-9223372036854775808)) (some 9223372036854775807),
  bounded "int" (some (-2147483648)) (some 2147483647),
  bounded "short" (some (-32768)) (some 32767),
  bounded "byte" (some (-128)) (some 127),
  bounded "unsignedLong" (some 0) (some 18446744073709551615),
  bounded "unsignedInt" (some 0) (some 4294967295),
  bounded "unsignedShort" (some 0) (some 65535),
  bounded "unsignedByte" (some 0) (some 255)]

/-- The datatype of a name. -/
def find? (name : Text) : Option Datatype := all.find? fun d => (d.name : Text) = name

end Datatype

/-- A value with its white space treated. -/
def Space.treat (s : Space) (cs : List Char) : List Char :=
  let spaced := cs.map fun c => if isSpace c then ' ' else c
  match s with
  | .keep => cs
  | .replace => spaced
  | .collapse => ((AttributeType.wordsOf spaced).intersperse [' ']).flatten

end SchemaGate.Schema
