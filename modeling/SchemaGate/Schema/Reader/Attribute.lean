import SchemaGate.Schema.Reader.Simple
import SchemaGate.Xml.SchemaLocation

/-!
Reading attributes: declarations, uses, groups of them, and wildcards. The attributes of a type may
come from several groups; no two of them have the same name.
-/

namespace SchemaGate.Schema

open Xml

namespace Library

/-- The value that a part gives, of which there is at most one. -/
def given? (i : Item) : Option (Option Given) :=
  match i.attribute? "default", i.attribute? "fixed" with
  | some _, some _ => none
  | some v, none => some (some (.default v))
  | none, some v => some (some (.fixed v))
  | none, none => some none

/-- Is a given value one of the type? -/
def suits (t : SimpleType) (g : Option Given) : Bool :=
  (g.map fun g => decide (t.flaws g.value.chars = 0)).getD true

/-- The type of an attribute: named, nested, or any text. -/
def attributeType? (l : Library) (steps : Nat) (i : Item) : Option SimpleType := do
  match i.attribute? "type", ← i.parts? with
  | some qname, [] => l.simpleNamed? steps (← i.scope.key? qname)
  | none, [p] =>
    if p.has "simpleType" && (p.attribute? "name").isNone then l.simple? steps p else none
  | none, [] => some .anything
  | _, _ => none

/-- Reads the declaration of an attribute under a name. -/
def declaredAttribute? (l : Library) (steps : Nat) (space : Option Text) (i : Item) :
    Option AttributeUse := do
  let name ← i.name?
  if name = ("xmlns" : Text) || space = some (instanceNamespace : Text) then none
  let type ← l.attributeType? steps i
  let given ← given? i
  if !suits type given then none
  return ⟨⟨space, name⟩, type, false, given⟩

/-- Reads the use of an attribute. A prohibited one is marked. -/
def attribute? (l : Library) (steps : Nat) (i : Item) : Option (Bool × AttributeUse) := do
  if !i.allows ["name", "ref", "type", "default", "fixed", "form", "use"] then none
  let use := i.attribute? "use"
  if !([none, some "optional", some "required", some "prohibited"] : List (Option String)).any
    fun u => use = u.map Text.ofString then none
  let given ← given? i
  let isRequired := use = some ("required" : Text)
  match given with
  | some (.default _) => if use.isSome && use ≠ some ("optional" : Text) then none
  | _ => pure ()
  let declared ← match i.attribute? "ref" with
    | some qname => do
      if ["name", "type", "form"].any fun n => (i.attribute? n).isSome then none
      if !(← i.parts?).isEmpty then none
      let key ← i.scope.key? qname
      if key.space = some ("http://www.w3.org/XML/1998/namespace" : Text) then
        some ⟨key, .anything, false, given⟩
      else
        let d ← l.find? ["attribute"] key
        let a ← l.declaredAttribute? steps key.space d
        some { a with given := if given.isSome then given else a.given }
    | none => do
      let isQualified ← i.form? "form" i.scope.qualifiesAttributes
      l.declaredAttribute? steps (if isQualified then i.scope.target else none) i
  return (use = some ("prohibited" : Text), { declared with isRequired := isRequired })

/-- The namespaces that a wildcard admits. -/
def admission? (i : Item) : Option Admission :=
  let text := (i.attribute? "namespace").getD "##any"
  if text = ("##any" : Text) then some .all
  else if text = ("##other" : Text) then some (.allBut i.scope.target)
  else
    let words := AttributeType.wordsOf (Space.collapse.treat text.chars)
    (words.mapM fun w =>
      if w = "##targetNamespace".toList then some i.scope.target
      else if w = "##local".toList then some none
      else if w.head? = some '#' then none
      else some (some (Text.ofChars w))).map .listed

/-- Reads a wildcard. -/
def wildcard? (i : Item) : Option Wildcard := do
  let admission ← admission? i
  if !(← i.parts?).isEmpty then none
  let word := (i.attribute? "processContents").getD "strict"
  if word = ("strict" : Text) then return ⟨admission, .strict⟩
  else if word = ("lax" : Text) then return ⟨admission, .lax⟩
  else if word = ("skip" : Text) then return ⟨admission, .skip⟩
  else none

/-- The attributes that parts describe: used ones, prohibited names, and a wildcard. -/
structure AttributeSet where
  used : List AttributeUse
  prohibited : List Key
  others : Option Wildcard

/-- What two wildcards admit in common, as strict as the first one. -/
def commonWildcard (a : Wildcard) : Option Wildcard → Wildcard
  | none => a
  | some b =>
    match a.admission, b.admission with
    | .all, x => ⟨x, a.strictness⟩
    | .listed spaces, x => ⟨.listed (spaces.filter x.admits), a.strictness⟩
    | x, .listed spaces => ⟨.listed (spaces.filter x.admits), a.strictness⟩
    | x, _ => ⟨x, a.strictness⟩

mutual

/-- Reads attributes, groups of attributes and, at the end, a wildcard for attributes. -/
def attributes? (l : Library) : Nat → List Item → Option AttributeSet
  | 0, _ => none
  | _, [] => some ⟨[], [], none⟩
  | steps + 1, i :: rest => do
    if i.has "anyAttribute" then
      if !i.allows ["namespace", "processContents"] || !rest.isEmpty then none
      return ⟨[], [], some (← wildcard? i)⟩
    let more ← l.attributes? steps rest
    if i.has "attribute" then
      let (isProhibited, a) ← l.attribute? steps i
      if isProhibited then return { more with prohibited := a.key :: more.prohibited }
      if more.used.any fun b => b.key = a.key then none
      return { more with used := a :: more.used }
    else if i.has "attributeGroup" then
      if !i.allows ["ref"] || !(← i.parts?).isEmpty then none
      let key ← i.scope.key? (← i.attribute? "ref")
      let group ← l.attributeGroup? steps (← l.find? ["attributeGroup"] key)
      if more.used.any fun b => group.used.any fun a => a.key = b.key then none
      let others := match group.others with
        | some w => some (commonWildcard w more.others)
        | none => more.others
      return ⟨group.used ++ more.used, group.prohibited ++ more.prohibited, others⟩
    else none

/-- Reads a group of attributes. -/
def attributeGroup? (l : Library) : Nat → Item → Option AttributeSet
  | 0, _ => none
  | steps + 1, i => do
    if !i.allows ["name"] then none
    l.attributes? steps (← i.parts?)

end

end Library

end SchemaGate.Schema
