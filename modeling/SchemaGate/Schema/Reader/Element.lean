import SchemaGate.Schema.Reader.Attribute

/-!
Reading elements and complex types. A type that is derived from another one is read together with its
base and keeps the names of all its bases; a group is read where it is referred to. Only the type of an
element may be left as a name, which has to exist.
-/

namespace SchemaGate.Schema

open Xml

namespace Library

/-- How often a part may occur; `none` tells of a fault. A part that may not occur at all has no
bounds. -/
def occurs? (i : Item) : Option (Option (Nat × Option Nat)) := do
  let number := fun (name : String) => do
    let n ← Datatype.integer? (Space.collapse.treat (← i.attribute? name).chars)
    if n < 0 then none else some n.toNat
  let least ← if (i.attribute? "minOccurs").isSome then number "minOccurs" else some 1
  let most ← if i.attribute? "maxOccurs" = some ("unbounded" : Text) then some none
    else if (i.attribute? "maxOccurs").isSome then (number "maxOccurs").map some
    else some (some 1)
  if most = some 0 then if least = 0 then some none else none
  else if (most.map (decide <| least ≤ ·)).getD true then some (some (least, most))
  else none

/-- An expression as often as a part may occur. -/
def repeated? {α : Type} (i : Item) (e : Expression α) : Option (Expression α) := do
  match ← occurs? i with
  | none => return .done
  | some (least, most) => return e.repeated least most

/-- The words for what may limit an element's identities. -/
def identityWords : List String := ["unique", "key", "keyref"]

/-- The words for the parts of a content model. -/
def modelWords : List String := ["element", "group", "choice", "sequence", "any"]

/-- The one part of a group that has a name. -/
def groupParts? (i : Item) : Option Item := do
  if !i.allows ["name"] then none
  match ← i.parts? with
  | [p] => if ["all", "choice", "sequence"].any p.has then some p else none
  | _ => none

/-- The content of a type behind that of its base. -/
def joined? (base own : Content TypeUse) : Option (Content TypeUse) :=
  match base, own with
  | .empty, c => some c
  | .simple _, _ => none
  | c, .empty => some c
  | .ordered m d, .ordered n e => if m = n then some (.ordered m (d.andThen e)) else none
  | _, _ => none

/-- A type with more attributes than its base. -/
def extended? (key : Key) (b : ComplexType TypeUse) (content : Content TypeUse)
    (set : AttributeSet) : Option (ComplexType TypeUse) :=
  if set.used.any fun a => b.attributes.any fun c => c.key = a.key then none
  else some ⟨content, b.attributes ++ set.used, set.others.orElse fun _ => b.otherAttributes, false,
    key :: b.bases⟩

/-- A type with narrower attributes than its base. -/
def narrowed (key : Key) (b : ComplexType TypeUse) (content : Content TypeUse)
    (set : AttributeSet) : ComplexType TypeUse :=
  let kept := b.attributes.filter fun c =>
    !set.used.any (fun a => a.key = c.key) && !set.prohibited.contains c.key
  ⟨content, kept ++ set.used, set.others, false, key :: b.bases⟩

mutual

/-- The type that an element names or holds. -/
def typeUse? (l : Library) : Nat → Item → List Item → Option (Option TypeUse)
  | 0, _, _ => none
  | steps + 1, i, parts =>
    match i.attribute? "type", parts with
    | some _, _ :: _ => none
    | some qname, [] => do
      let key ← i.scope.key? qname
      if key = ⟨some schemaNamespace, "anyType"⟩ then return some .anything
      if key.space = some schemaNamespace then return some (.simple (← l.simpleNamed? steps key))
      let d ← l.find? ["simpleType", "complexType"] key
      if d.has "simpleType" then return some (.simple (← l.simple? steps d))
      else return some (.named key)
    | none, [p] => do
      if (p.attribute? "name").isSome then none
      if p.has "simpleType" then return some (.simple (← l.simple? steps p))
      else if p.has "complexType" then return some (.anonymous (← l.complex? steps p))
      else none
    | none, [] => some none
    | none, _ => none

/-- Reads the declaration of an element under a name. -/
def declaredElement? (l : Library) : Nat → Option Text → Item → Option (ElementUse TypeUse)
  | 0, _, _ => none
  | steps + 1, space, i => do
    let name ← i.name?
    let parts ← i.parts?
    let types := parts.takeWhile fun p => !identityWords.any p.has
    if !(parts.drop types.length).all fun p => identityWords.any p.has then none
    let given ← given? i
    let type ← match ← l.typeUse? steps i types, i.attribute? "substitutionGroup" with
      | some t, _ => some t
      | none, some qname => do
        let key ← i.scope.key? qname
        pure (← l.declaredElement? steps key.space (← l.find? ["element"] key)).type
      | none, none => some .anything
    match type with
    | .simple t => if !suits t given then none
    | _ => pure ()
    return ⟨⟨space, name⟩, type, ← i.flag? "nillable", ← i.flag? "abstract", given⟩

/-- Reads one part of a content model. -/
def model? (l : Library) : Nat → Item → Option (Expression (Particle TypeUse))
  | 0, _ => none
  | steps + 1, i => do
    if i.has "element" then
      if !i.allows ["name", "ref", "type", "default", "fixed", "minOccurs", "maxOccurs", "block",
        "form", "nillable"] then none
      match i.attribute? "ref" with
      | some qname =>
        if !i.allows ["ref", "minOccurs", "maxOccurs"] || !(← i.parts?).isEmpty then none
        let key ← i.scope.key? qname
        let _ ← l.find? ["element"] key
        repeated? i (.one (.reference key))
      | none =>
        let isQualified ← i.form? "form" i.scope.qualifiesElements
        let space := if isQualified then i.scope.target else none
        repeated? i (.one (.element (← l.declaredElement? steps space i)))
    else if i.has "any" then
      if !i.allows ["namespace", "processContents", "minOccurs", "maxOccurs"] then none
      repeated? i (.one (.wildcard (← wildcard? i)))
    else if i.has "group" then
      if !i.allows ["ref", "minOccurs", "maxOccurs"] || !(← i.parts?).isEmpty then none
      let key ← i.scope.key? (← i.attribute? "ref")
      match ← groupParts? (← l.find? ["group"] key) with
      | p => if p.has "all" then none else repeated? i (← l.model? steps p)
    else
      if !i.allows ["minOccurs", "maxOccurs"] then none
      let parts ← i.parts?
      if !parts.all fun p => modelWords.any p.has then none
      let models ← parts.mapM fun p => l.model? steps p
      if i.has "sequence" then repeated? i (Expression.sequence models)
      else if i.has "choice" then repeated? i (Expression.choice models)
      else none

/-- Reads an unordered group. -/
def unordered? (l : Library) : Nat → Bool → Item → Option (Content TypeUse)
  | 0, _, _ => none
  | steps + 1, isMixed, i => do
    if !i.allows ["minOccurs", "maxOccurs"] then none
    let parts ← i.parts?
    if !parts.all fun p => p.has "element" then none
    let members ← parts.mapM fun p => do
      let bounds ← occurs? p
      match bounds, ← l.model? steps p with
      | some (least, some 1), .one x => some [(decide (least = 1), x)]
      | some (0, some 1), .times (.one x) _ _ => some [(false, x)]
      | none, _ => some []
      | _, _ => none
    match ← occurs? i with
    | some (least, some 1) => return .unordered isMixed (least = 0) members.flatten
    | none => return if isMixed then .ordered true .done else .empty
    | _ => none

/-- Reads the content that the first of some parts describes, and hands out the other parts. -/
def content? (l : Library) : Nat → Bool → List Item → Option (Content TypeUse × List Item)
  | 0, _, _ => none
  | steps + 1, isMixed, parts =>
    let nothing : Content TypeUse := if isMixed then .ordered true .done else .empty
    match parts with
    | [] => some (nothing, [])
    | p :: rest =>
      if p.has "all" then do return (← l.unordered? steps isMixed p, rest)
      else if ["sequence", "choice"].any p.has then do
        let model ← l.model? steps p
        if (← p.parts?).isEmpty && p.has "sequence" then return (nothing, rest)
        return (.ordered isMixed model, rest)
      else if p.has "group" then do
        let key ← p.scope.key? (← p.attribute? "ref")
        let q ← groupParts? (← l.find? ["group"] key)
        if q.has "all" then return (← l.unordered? steps isMixed q, rest)
        return (.ordered isMixed (← l.model? steps p), rest)
      else some (nothing, p :: rest)

/-- Reads a complex type. -/
def complex? (l : Library) : Nat → Item → Option (ComplexType TypeUse)
  | 0, _ => none
  | steps + 1, i => do
    if !i.allows ["name", "mixed", "abstract", "final", "block"] then none
    let isMixed ← i.flag? "mixed"
    let isAbstract ← i.flag? "abstract"
    let parts ← i.parts?
    match parts with
    | [p] =>
      if p.has "simpleContent" then
        if !p.allows [] then none
        return { ← l.derivedSimple? steps p with isAbstract := isAbstract }
      if p.has "complexContent" then
        if !p.allows ["mixed"] then none
        let mixed ← if (p.attribute? "mixed").isSome then p.flag? "mixed" else some isMixed
        return { ← l.derivedComplex? steps mixed p with isAbstract := isAbstract }
    | _ => pure ()
    let (content, rest) ← l.content? steps isMixed parts
    let set ← l.attributes? steps rest
    if !content.isClear l.substitutions then none
    return ⟨content, set.used, set.others, isAbstract, []⟩

/-- The complex type that a derivation starts from, with its name. -/
def baseType? (l : Library) : Nat → Item → Option (Key × Option (ComplexType TypeUse))
  | 0, _ => none
  | steps + 1, p => do
    let key ← p.scope.key? (← p.attribute? "base")
    if key = ⟨some schemaNamespace, "anyType"⟩ then return (key, none)
    return (key, some (← l.complex? steps (← l.find? ["complexType"] key)))

/-- Reads a type with simple content. -/
def derivedSimple? (l : Library) : Nat → Item → Option (ComplexType TypeUse)
  | 0, _ => none
  | steps + 1, i => do
    let p ← match ← i.parts? with
      | [p] => some p
      | _ => none
    if !p.allows ["base"] then none
    let parts ← p.parts?
    if p.has "extension" then
      let set ← l.attributes? steps parts
      let key ← p.scope.key? (← p.attribute? "base")
      match l.simpleNamed? steps key with
      | some t => return ⟨.simple t, set.used, set.others, false, [key]⟩
      | none =>
        match ← l.baseType? steps p with
        | (key, some b) =>
          match b.content with
          | .simple t => extended? key b (.simple t) set
          | _ => none
        | _ => none
    else if p.has "restriction" then
      match ← l.baseType? steps p with
      | (key, some b) =>
        match b.content with
        | .simple t =>
          let nested := parts.takeWhile fun q => q.has "simpleType"
          let behind := parts.drop nested.length
          let base ← match nested with
            | [] => some t
            | [q] => l.simple? steps q
            | _ => none
          let facets := behind.takeWhile fun q => facetWords.any q.has
          let type ← restricted? base facets
          let set ← l.attributes? steps (behind.drop facets.length)
          return narrowed key b (.simple type) set
        | _ => none
      | _ => none
    else none

/-- Reads a type derived from another complex type. -/
def derivedComplex? (l : Library) : Nat → Bool → Item → Option (ComplexType TypeUse)
  | 0, _, _ => none
  | steps + 1, isMixed, i => do
    let p ← match ← i.parts? with
      | [p] => some p
      | _ => none
    if !p.allows ["base"] then none
    let (own, rest) ← l.content? steps isMixed (← p.parts?)
    let set ← l.attributes? steps rest
    let (key, base) ← l.baseType? steps p
    let anything : ComplexType TypeUse :=
      ⟨.ordered true (.times (.one (.wildcard ⟨.all, .lax⟩)) 0 none), [], some ⟨.all, .lax⟩, false, []⟩
    let b := base.getD anything
    let content ← if p.has "restriction" then some own
      else if p.has "extension" then joined? b.content own
      else none
    if !content.isClear l.substitutions then none
    if p.has "restriction" then return narrowed key b content set
    else extended? key b content set

end

end Library

end SchemaGate.Schema
