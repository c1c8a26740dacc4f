import SchemaGate.Schema.Source

/-!
Reading simple types. What a type is built on, a base type or the types of its members, is read on the
spot from the library. The readers count their steps down, since definitions may be built on each
other in a circle. A type with any fault is none.
-/

namespace SchemaGate.Schema

open Xml

namespace Library

/-- The words for facets. -/
def facetWords : List String :=
  ["length", "minLength", "maxLength", "pattern", "enumeration", "minInclusive", "minExclusive",
   "maxInclusive", "maxExclusive", "totalDigits", "fractionDigits", "whiteSpace"]

/-- The value of a facet, treated as a word. -/
def facetValue? (p : Item) : Option (List Char) := do
  if !p.allows ["value", "fixed"] || !(← p.parts?).isEmpty then none
  return (← p.attribute? "value").chars

/-- The number that a facet gives. -/
def facetNumber? (p : Item) : Option Nat := do
  let cs := Space.collapse.treat (← facetValue? p)
  let n ← Datatype.integer? cs
  if n < 0 then none else some n.toNat

/-- The facet of a part; patterns and enumerations are read apart. `none` tells of a fault. -/
def facet? (base : SimpleType) (p : Item) : Option (List Facet) := do
  let bound := do
    let text ← facetValue? p
    let cs := base.space.treat text
    if base.flaws text = 0 then Datatype.number? cs else none
  if p.has "length" then return [.length (← facetNumber? p)]
  else if p.has "minLength" then return [.minLength (← facetNumber? p)]
  else if p.has "maxLength" then return [.maxLength (← facetNumber? p)]
  else if p.has "totalDigits" then return [.totalDigits (← facetNumber? p)]
  else if p.has "fractionDigits" then return [.fractionDigits (← facetNumber? p)]
  else if p.has "minInclusive" then return [.minInclusive (← bound)]
  else if p.has "minExclusive" then return [.minExclusive (← bound)]
  else if p.has "maxInclusive" then return [.maxInclusive (← bound)]
  else if p.has "maxExclusive" then return [.maxExclusive (← bound)]
  else return []

/-- The treatment of white space that parts ask for. -/
def spaceOf? (parts : List Item) : Option (Option Space) :=
  match parts.find? fun p => p.has "whiteSpace" with
  | none => some none
  | some p => do
    let word := String.ofList (← facetValue? p)
    if word = "preserve" then some (some .keep)
    else if word = "replace" then some (some .replace)
    else if word = "collapse" then some (some .collapse)
    else none

/-- A simple type restricted by parts. -/
def restricted? (base : SimpleType) (parts : List Item) : Option SimpleType := do
  if !parts.all fun p => facetWords.any p.has then none
  let space ← spaceOf? parts
  let facets ← parts.mapM (facet? base)
  let patterns ← (parts.filter fun p => p.has "pattern").mapM fun p => do
    Pattern.ofChars? (← facetValue? p)
  let values ← (parts.filter fun p => p.has "enumeration").mapM facetValue?
  if !values.all fun v => base.flaws v = 0 then none
  let listed := values.map (space.getD base.space).treat
  return .restriction base space (facets.flatten
    ++ (if patterns.isEmpty then [] else [.pattern patterns])
    ++ (if values.isEmpty then [] else [.enumeration listed]))

mutual

/-- The simple type of a name. -/
def simpleNamed? (l : Library) : Nat → Key → Option SimpleType
  | 0, _ => none
  | steps + 1, key =>
    if key.space = some schemaNamespace then (Datatype.find? key.part).map .datatype
    else do l.simple? steps (← l.find? ["simpleType"] key)

/-- Reads a simple type. -/
def simple? (l : Library) : Nat → Item → Option SimpleType
  | 0, _ => none
  | steps + 1, i => do
    if !i.allows ["name", "final"] then none
    match ← i.parts? with
    | [p] =>
      if p.has "restriction" then l.simpleRestriction? steps p
      else if p.has "list" then
        if !p.allows ["itemType"] then none
        return .list (← l.baseOrNested? steps "itemType" p (← p.parts?)).1
      else if p.has "union" then l.union? steps p
      else none
    | _ => none

/-- Reads the restriction of a simple type. -/
def simpleRestriction? (l : Library) : Nat → Item → Option SimpleType
  | 0, _ => none
  | steps + 1, p => do
    if !p.allows ["base"] then none
    let (base, parts) ← l.baseOrNested? steps "base" p (← p.parts?)
    restricted? base parts

/-- The type that an attribute names or the first part is, one of the two, and the other parts. -/
def baseOrNested? (l : Library) : Nat → String → Item → List Item →
    Option (SimpleType × List Item)
  | 0, _, _, _ => none
  | steps + 1, name, p, parts =>
    match p.attribute? name, parts with
    | some qname, [] => do return (← l.simpleNamed? steps (← p.scope.key? qname), [])
    | some qname, first :: rest => do
      if first.has "simpleType" then none
      return (← l.simpleNamed? steps (← p.scope.key? qname), first :: rest)
    | none, first :: rest => do
      if !first.has "simpleType" || (first.attribute? "name").isSome then none
      return (← l.simple? steps first, rest)
    | none, [] => none

/-- Reads a union. -/
def union? (l : Library) : Nat → Item → Option SimpleType
  | 0, _ => none
  | steps + 1, p => do
    if !p.allows ["memberTypes"] then none
    let parts ← p.parts?
    let names := AttributeType.wordsOf
      (Space.collapse.treat ((p.attribute? "memberTypes").getD []).chars)
    if !parts.all fun q => q.has "simpleType" && (q.attribute? "name").isNone then none
    let named ← names.mapM fun n => do
      l.simpleNamed? steps (← p.scope.key? (Text.ofChars n))
    let nested ← parts.mapM fun q => l.simple? steps q
    if named.isEmpty && nested.isEmpty then none
    return .union (named ++ nested)

end

end Library

end SchemaGate.Schema
