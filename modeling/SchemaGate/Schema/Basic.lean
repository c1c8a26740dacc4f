import SchemaGate.Association
import SchemaGate.Schema.Simple
import SchemaGate.Xml.Tree

/-!
Schemas. A schema declares elements, types and attributes by name. A type that has no name stands
where it is used; a complex type with a name is referred to by it, so that a type may hold elements of
its own type.
-/

namespace SchemaGate.Schema

/-- The name of a component or of an element: a namespace and a local part. -/
structure Key where
  space : Option Text
  part : Text
  deriving DecidableEq

/-- The key of a name in a document. -/
def Key.ofName (n : Xml.Name) : Key := ⟨n.space, n.part⟩

/-- The namespace of schema documents and of the datatypes. -/
def schemaNamespace : Text := "http://www.w3.org/2001/XMLSchema"

/-! ### Wildcards -/

/-- Which namespaces a wildcard admits. -/
inductive Admission where
  | all
  /-- Every namespace but this one; no name without a namespace. -/
  | allBut (space : Option Text)
  | listed (spaces : List (Option Text))
  deriving DecidableEq

/-- How much a wildcard wants to know of what it admits. -/
inductive Strictness where
  | skip
  | lax
  | strict
  deriving DecidableEq

structure Wildcard where
  admission : Admission
  strictness : Strictness
  deriving DecidableEq

/-- Does a wildcard admit names of a namespace? -/
def Admission.admits (a : Admission) (space : Option Text) : Bool :=
  match a with
  | .all => true
  | .allBut other => space.isSome && space ≠ other
  | .listed spaces => spaces.contains space

/-- Is there a namespace that both admit? -/
def Admission.overlaps : Admission → Admission → Bool
  | .listed spaces, a => spaces.any a.admits
  | a, .listed spaces => spaces.any a.admits
  | _, _ => true

/-! ### Values -/

/-- A value that is given when none is there, or that is the only one allowed. -/
inductive Given where
  | default (value : Text)
  | fixed (value : Text)
  deriving DecidableEq

def Given.value : Given → Text
  | .default v => v
  | .fixed v => v

/-- An attribute that an element may or must have. -/
structure AttributeUse where
  key : Key
  type : SimpleType
  isRequired : Bool
  given : Option Given

/-! ### Types -/

/-- An element as a schema declares it; `τ` says what its type is. -/
structure ElementUse (τ : Type) where
  key : Key
  type : τ
  isNillable : Bool
  isAbstract : Bool
  given : Option Given

/-- What may stand at one place of a content model. -/
inductive Particle (τ : Type) where
  | element (use : ElementUse τ)
  | reference (key : Key)
  | wildcard (w : Wildcard)

/-- What an element may hold. -/
inductive Content (τ : Type) where
  | empty
  | simple (type : SimpleType)
  | ordered (isMixed : Bool) (model : Expression (Particle τ))
  /-- Each member at most once in any order; the required ones are marked. -/
  | unordered (isMixed isOptional : Bool) (members : List (Bool × Particle τ))

/-- A type of elements with attributes or with elements in them. -/
structure ComplexType (τ : Type) where
  content : Content τ
  attributes : List AttributeUse
  otherAttributes : Option Wildcard
  isAbstract : Bool
  /-- The types it is derived from, the nearest first. -/
  bases : List Key

/-- The type of an element where it is used. -/
inductive TypeUse where
  | simple (t : SimpleType)
  | named (key : Key)
  | anonymous (c : ComplexType TypeUse)
  /-- Any content and any attributes. -/
  | anything

/-- Which element may stand for which: pairs of an element and the head of its group. -/
abbrev Substitutions := List (Key × Key)

namespace Substitutions

/-- May an element stand for another one, directly or through others? -/
def allowsWithin (s : Substitutions) : Nat → Key → Key → Bool
  | 0, _, _ => false
  | steps + 1, key, head =>
    match Association.get? key s with
    | some k => k = head || allowsWithin s steps k head
    | none => false

/-- Is it an element itself or one that may stand for it? -/
def allows (s : Substitutions) (key head : Key) : Bool :=
  key = head || s.allowsWithin s.length key head

/-- An element and all that may stand for it. -/
def group (s : Substitutions) (head : Key) : List Key :=
  head :: (s.map Prod.fst).filter fun k => s.allowsWithin s.length k head

end Substitutions

namespace Particle

variable {τ : Type}

/-- Does an element fit a particle? -/
def isFitBy (s : Substitutions) (key : Key) : Particle τ → Bool
  | .element use => use.key = key
  | .reference head => s.allows key head
  | .wildcard w => w.admission.admits key.space

/-- The elements that fit a particle, unless it is a wildcard. -/
def keys (s : Substitutions) : Particle τ → List Key
  | .element use => [use.key]
  | .reference head => s.group head
  | .wildcard _ => []

/-- Is there an element that fits both particles? -/
def overlaps (s : Substitutions) (a b : Particle τ) : Bool :=
  match a, b with
  | .wildcard v, .wildcard w => v.admission.overlaps w.admission
  | a, b => (a.keys s).any (b.isFitBy s) || (b.keys s).any (a.isFitBy s)

end Particle

/-- Does the next element always tell its place in the content? -/
def Content.isClear {τ : Type} (s : Substitutions) : Content τ → Bool
  | .ordered _ model => model.isDeterministic (Particle.overlaps s)
  | .unordered _ _ members =>
    !Expression.clashes (Particle.overlaps s)
      ((List.range members.length).zip (members.map Prod.snd))
  | _ => true

/-- The components of a schema. -/
structure Components where
  elements : List (Key × ElementUse TypeUse)
  types : List (Key × TypeUse)
  attributes : List (Key × AttributeUse)
  substitutions : Substitutions

namespace Components

/-- The declaration of an element. -/
def element? (c : Components) (key : Key) : Option (ElementUse TypeUse) :=
  Association.get? key c.elements

/-- The type behind a use: a simple one, a complex one, or none where anything goes. -/
def definition? (c : Components) : TypeUse → Option (SimpleType ⊕ ComplexType TypeUse)
  | .simple t => some (.inl t)
  | .anonymous d => some (.inr d)
  | .anything => none
  | .named key =>
    match Association.get? key c.types with
    | some (.simple t) => some (.inl t)
    | some (.anonymous d) => some (.inr d)
    | _ => none

end Components

end SchemaGate.Schema
