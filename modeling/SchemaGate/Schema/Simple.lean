import SchemaGate.Schema.Pattern

/-!
Simple types: the types of attribute values and of elements that hold nothing but text. A type is a
datatype, a list, a union, or a restriction of another simple type by facets. A value that is not even
spelled right is one flaw; a value that is spelled right has one flaw for each kind of facet it
violates.
-/

namespace SchemaGate.Schema

open Xml

namespace Datatype

/-- A decimal number times a power of ten. -/
def Decimal.scaled (d : Decimal) (exponent : Int) : Decimal :=
  if 0 ≤ exponent then ⟨d.digits * tenTo exponent.toNat, d.places⟩
  else ⟨d.digits, d.places + exponent.natAbs⟩

/-- The number that a decimal or a floating point text spells; exponents beyond the range of the
types, infinities and what is not a number spell none. -/
def number? (cs : List Char) : Option Decimal := do
  let mantissa := cs.takeWhile fun c => c ≠ 'e' && c ≠ 'E'
  let d ← decimal? mantissa
  if mantissa.length = cs.length then some d
  else
    let exponent ← integer? (cs.drop (mantissa.length + 1))
    if exponent.natAbs ≤ 400 then some (d.scaled exponent) else none

/-- The digits of a decimal number that count, and how many of them stand behind the point. -/
def significant (cs : List Char) : Nat × Nat :=
  let unsigned := (splitSign cs).2
  let whole := unsigned.takeWhile (· ≠ '.')
  let behind := ((((unsigned.drop whole.length).drop 1).reverse).dropWhile (· = '0')).reverse
  ((whole.dropWhile (· = '0')).length + behind.length, behind.length)

/-- Do two texts spell the same value? -/
def isSameValue (d : Datatype) (a b : List Char) : Bool :=
  match d.measure with
  | .number =>
    match number? a, number? b with
    | some m, some n => m.le n && n.le m
    | _, _ => a = b
  | _ =>
    let truth := fun (cs : List Char) => cs = "true".toList || cs = "1".toList
    if d.name = "boolean" then truth a = truth b else a = b

/-- How long a value is, where values of the type have a length. -/
def length? (d : Datatype) (cs : List Char) : Option Nat :=
  match d.measure with
  | .characters => some (if d.isList then (AttributeType.wordsOf cs).length else cs.length)
  | .octets =>
    if d.name = "hexBinary" then some (cs.length / 2)
    else
      let cs := cs.filter (· ≠ ' ')
      some (cs.length / 4 * 3 - (cs.filter (· = '=')).length)
  | _ => none

end Datatype

/-- What restricts the values of a type. -/
inductive Facet where
  | length (n : Nat)
  | minLength (n : Nat)
  | maxLength (n : Nat)
  /-- The value matches one of the patterns. -/
  | pattern (alternatives : List Pattern)
  | enumeration (values : List (List Char))
  | minInclusive (bound : Datatype.Decimal)
  | minExclusive (bound : Datatype.Decimal)
  | maxInclusive (bound : Datatype.Decimal)
  | maxExclusive (bound : Datatype.Decimal)
  | totalDigits (n : Nat)
  | fractionDigits (n : Nat)

/-- The name of the kind of a facet. -/
def Facet.kind : Facet → String
  | .length _ => "length"
  | .minLength _ => "minLength"
  | .maxLength _ => "maxLength"
  | .pattern _ => "pattern"
  | .enumeration _ => "enumeration"
  | .minInclusive _ => "minInclusive"
  | .minExclusive _ => "minExclusive"
  | .maxInclusive _ => "maxInclusive"
  | .maxExclusive _ => "maxExclusive"
  | .totalDigits _ => "totalDigits"
  | .fractionDigits _ => "fractionDigits"

/-- A type of text values. -/
inductive SimpleType where
  | datatype (d : Datatype)
  | list (item : SimpleType)
  | union (members : List SimpleType)
  | restriction (base : SimpleType) (space : Option Space) (facets : List Facet)

namespace SimpleType

/-- What becomes of white space in values of the type. -/
def space : SimpleType → Space
  | .datatype d => d.space
  | .list _ => .collapse
  | .union _ => .keep
  | .restriction base space _ => space.getD base.space

/-- The datatype under a chain of restrictions. -/
def datatype? : SimpleType → Option Datatype
  | .datatype d => some d
  | .restriction base _ _ => base.datatype?
  | _ => none

/-- Is the type a list under its restrictions? -/
def isList : SimpleType → Bool
  | .list _ => true
  | .restriction base _ _ => base.isList
  | _ => false

/-- How long a value is, where values of the type have a length. -/
def length? (t : SimpleType) (cs : List Char) : Option Nat :=
  if t.isList then some (AttributeType.wordsOf cs).length
  else t.datatype?.bind (·.length? cs)

/-- Do two texts spell the same value? -/
def isSameValue (t : SimpleType) (a b : List Char) : Bool :=
  match t.datatype? with
  | some d => d.isSameValue a b
  | none => a = b

/-- Does a value respect a facet? -/
def respects (t : SimpleType) (cs : List Char) (f : Facet) : Bool :=
  let length := fun (p : Nat → Bool) => ((t.length? cs).map p).getD true
  let number := fun (p : Datatype.Decimal → Bool) => ((Datatype.number? cs).map p).getD true
  match f with
  | .length n => length (· = n)
  | .minLength n => length (n ≤ ·)
  | .maxLength n => length (· ≤ n)
  | .pattern ps => ps.any (·.isMatchedBy cs)
  | .enumeration values => values.any (t.isSameValue cs)
  | .minInclusive b => number b.le
  | .minExclusive b => number fun n => !n.le b
  | .maxInclusive b => number (·.le b)
  | .maxExclusive b => number fun n => !b.le n
  | .totalDigits n => (Datatype.significant cs).1 ≤ n
  | .fractionDigits n => (Datatype.significant cs).2 ≤ n

/-- The facets of a chain of restrictions. -/
def facets : SimpleType → List Facet
  | .restriction base _ facets => facets ++ base.facets
  | _ => []

/-- The kinds of facets that a value violates, each once. -/
def violated (t : SimpleType) (cs : List Char) : List String :=
  ((t.facets.filter fun f => !t.respects cs f).map Facet.kind).eraseDups

mutual

/-- Is a value spelled right, facets of the type itself aside? -/
def isSpelled : SimpleType → List Char → Bool
  | .datatype d, cs => d.fits cs
  | .list item, cs => (AttributeType.wordsOf cs).all fun w =>
      isSpelled item w && (violated item w).isEmpty
  | .union members, cs => isOfAny members cs
  | .restriction base _ _, cs => isSpelled base cs

/-- Is a text a value of one of some types? -/
def isOfAny : List SimpleType → List Char → Bool
  | [], _ => false
  | t :: rest, cs =>
    let treated := t.space.treat cs
    (isSpelled t treated && (violated t treated).isEmpty) || isOfAny rest cs

end

/-- How many flaws a text has as a value of the type. -/
def flaws (t : SimpleType) (text : List Char) : Nat :=
  let cs := t.space.treat text
  if t.isSpelled cs then (t.violated cs).length else 1

/-- The type of any text. -/
def anything : SimpleType :=
  .datatype ⟨"anySimpleType", .keep, .characters, false, fun _ => true⟩

end SimpleType

end SchemaGate.Schema
