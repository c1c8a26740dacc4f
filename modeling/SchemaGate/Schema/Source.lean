import SchemaGate.Schema.Basic
import SchemaGate.Xml.Document

/-!
Schema documents. A schema is spread over documents that include or import each other; what they
define is gathered into one library, in which every definition keeps the scope it was written in. A
document that cannot be found is no fault of an import, but it is one of an inclusion.
-/

namespace SchemaGate.Schema

open Xml

/-- What names mean inside a schema document. -/
structure Scope where
  /-- The namespace of what the document defines. -/
  target : Option Text
  qualifiesElements : Bool
  qualifiesAttributes : Bool
  /-- The namespaces of prefixes, the nearest declaration first. -/
  bindings : List Declaration
  /-- The namespaces that may be referred to. -/
  visible : List (Option Text)
  /-- Does a reference without a namespace mean the target namespace? -/
  adoptsTarget : Bool

/-- A part of a schema document: the word for it, its head, and what is in it. -/
structure Item where
  word : Text
  head : Head
  children : List Node
  scope : Scope

/-- A definition at the top of a schema document. -/
structure Definition where
  key : Key
  item : Item

/-- All definitions of a schema. -/
abbrev Library := List Definition

namespace Scope

/-- The scope inside an element. -/
def enter (s : Scope) (h : Head) : Scope := { s with bindings := h.declarations ++ s.bindings }

/-- The namespace that a prefix, or the lack of one, stands for. -/
def space? (s : Scope) (front : Option Text) : Option Text :=
  match s.bindings.find? fun d => d.declares = front with
  | some d => if d.address.isEmpty then none else some d.address
  | none => none

/-- The component that a name without a prefix refers to. -/
def plainKey (s : Scope) (part : List Char) : Key :=
  let space := s.space? none
  ⟨if space.isNone && s.adoptsTarget then s.target else space, Text.ofChars part⟩

/-- The component that a name with a prefix refers to. -/
def prefixedKey? (s : Scope) (front part : List Char) : Option Key :=
  match s.space? (some (Text.ofChars front)) with
  | some space => some ⟨some space, Text.ofChars part⟩
  | none => none

/-- The component that a qualified name refers to. -/
def key? (s : Scope) (name : Text) : Option Key :=
  let key := match (Space.collapse.treat name.chars).splitOn ':' with
    | [n] => if isPlainName n then some (s.plainKey n) else none
    | [p, n] => if isPlainName p && isPlainName n then s.prefixedKey? p n else none
    | _ => none
  key.filter fun k => s.visible.contains k.space

end Scope

namespace Item

/-- Is it this part? -/
def has (i : Item) (word : String) : Bool := i.word = (word : Text)

def attribute? (i : Item) (name : String) : Option Text := i.head.attribute? none name

/-- Are the attributes among those that the part may have? Attributes of other namespaces always
are. -/
def allows (i : Item) (names : List String) : Bool :=
  i.head.attributes.all fun a =>
    match a.name.space with
    | none => ("id" :: names).any fun n => a.name.part = (n : Text)
    | some space => space ≠ schemaNamespace

/-- The parts that nodes hold; between them only white space may stand. -/
def listed? (scope : Scope) : List Node → Option (List Item)
  | [] => some []
  | .element h children :: rest => do
    if h.name.space ≠ some schemaNamespace then none
    let items ← listed? scope rest
    return ⟨h.name.part, h, children, scope.enter h⟩ :: items
  | .text t :: rest => if t.chars.all isSpace then listed? scope rest else none
  | _ :: rest => listed? scope rest

/-- The parts inside a part, without the annotation that may stand first. -/
def parts? (i : Item) : Option (List Item) := do
  match ← listed? i.scope i.children with
  | first :: rest => return if first.has "annotation" then rest else first :: rest
  | [] => return []

/-- A name attribute, which has to be a plain name. -/
def name? (i : Item) : Option Text := do
  let name ← i.attribute? "name"
  if isPlainName name.chars then some name else none

/-- A truth value, false if it is not given. -/
def flag? (i : Item) (name : String) : Option Bool :=
  match i.attribute? name with
  | none => some false
  | some t =>
    let word := String.ofList (Space.collapse.treat t.chars)
    if word = "true" || word = "1" then some true
    else if word = "false" || word = "0" then some false
    else none

/-- A form: are names qualified? -/
def form? (i : Item) (name : String) (usual : Bool) : Option Bool :=
  match i.attribute? name with
  | none => some usual
  | some t =>
    if t = ("qualified" : Text) then some true
    else if t = ("unqualified" : Text) then some false
    else none

end Item

namespace Library

/-- The definition of a name with one of some words. -/
def find? (l : Library) (words : List String) (key : Key) : Option Item :=
  (List.find? (fun d => d.key = key && words.any d.item.has) l).map Definition.item

/-- Which element of the library may stand for which. -/
def substitutions (l : Library) : Substitutions :=
  l.filterMap fun d => do
    if !d.item.has "element" then none
    return (d.key, ← d.item.scope.key? (← d.item.attribute? "substitutionGroup"))

end Library

/-! ### One document -/

/-- Another document that a schema document wants. -/
structure Want where
  /-- Is the namespace that of the wanting document? -/
  isInclusion : Bool
  space : Option Text
  location : Option Text

/-- A schema document: where it is, what it wants and what it defines. -/
structure Source where
  address : Option Text
  wants : List Want
  definitions : Library
  target : Option Text

/-- The words for what may stand at the top of a schema document. -/
def definitionWords : List String :=
  ["simpleType", "complexType", "group", "attributeGroup", "element", "attribute", "notation"]

/-- Reads the wish for another document. -/
def want? (target : Option Text) (i : Item) : Option Want := do
  if !(← i.parts?).isEmpty then none
  else if i.has "import" then
    let space := i.attribute? "namespace"
    if !i.allows ["namespace", "schemaLocation"] || space = target then none
    return ⟨false, space, i.attribute? "schemaLocation"⟩
  else
    let location ← i.attribute? "schemaLocation"
    if !i.allows ["schemaLocation"] then none
    return ⟨true, target, some location⟩

/-- The definitions among the parts of a schema document. -/
def definitions? (target : Option Text) : List Item → Option Library
  | [] => some []
  | i :: rest => do
    let more ← definitions? target rest
    if i.has "annotation" then return more
    if !definitionWords.any i.has then none
    let name ← i.name?
    return ⟨⟨target, name⟩, i⟩ :: more

/-- The attributes of a schema document. -/
def sourceAttributes : List String :=
  ["targetNamespace", "elementFormDefault", "attributeFormDefault", "blockDefault", "finalDefault",
   "version"]

/-- Reads a schema document. A document without a namespace that is included takes on that of the one
that includes it. -/
def source? (address : Option Text) (including : Option (Option Text)) (root : Node) :
    Option Source := do
  let h ← root.head?
  let blank : Scope := ⟨none, false, false, [⟨some "xml", "http://www.w3.org/XML/1998/namespace"⟩],
    [], false⟩
  let i : Item := ⟨h.name.part, h, root.children, blank.enter h⟩
  if h.name.space ≠ some schemaNamespace || !i.has "schema" || !i.allows sourceAttributes then none
  let own := i.attribute? "targetNamespace"
  if own = some [] then none
  let target ← match including with
    | none => some own
    | some target => if own.isNone || own = target then some target else none
  let items ← Item.listed? i.scope i.children
  let early := items.takeWhile fun i => ["annotation", "include", "import"].any i.has
  let wants ← (early.filter fun i => !i.has "annotation").mapM (want? target)
  let scope : Scope :=
    { i.scope with
      target := target
      qualifiesElements := ← i.form? "elementFormDefault" false
      qualifiesAttributes := ← i.form? "attributeFormDefault" false
      visible := some schemaNamespace :: target ::
        (wants.filter fun w => !w.isInclusion).map Want.space
      adoptsTarget := own.isNone }
  let late ← Item.listed? scope i.children
  return ⟨address, wants, ← definitions? target (late.drop early.length), target⟩

/-! ### All documents -/

section

variable {m : Type → Type} [Monad m]

/-- The documents gathered so far. -/
structure Gathered where
  addresses : List Text
  spaces : List (Option Text)
  library : Library

/-- Two definitions of one name; types of both kinds share their names. -/
def Definition.collides (a b : Definition) : Bool :=
  let sort := fun (d : Definition) =>
    if d.item.has "simpleType" then ("complexType" : Text) else d.item.word
  a.key = b.key && sort a = sort b

/-- The library with more definitions, none of which it has already. -/
def Library.with? (l : Library) (more : Library) : Option Library :=
  more.foldlM (fun l d => if l.any d.collides then none else some (l ++ [d])) l

/-- Gathers what documents want, one after the other. `none` tells that there is no schema. -/
def gather (fetch : Fetch m) : Nat → Gathered → List (Source × Want) → m (Option Library)
  | 0, _, _ => return none
  | _, g, [] => return some g.library
  | steps + 1, g, (source, want) :: pending => do
    let address := want.location.bind fun l =>
      (Address.resolve? (source.address.map Text.chars) l.chars).map Text.ofChars
    match address with
    | none =>
      if want.isInclusion then return none else gather fetch steps g pending
    | some address =>
      if g.addresses.contains address || (!want.isInclusion && g.spaces.contains want.space) then
        gather fetch steps g pending
      else
        match ← fetch ⟨none, address⟩ with
        | none => if want.isInclusion then return none else gather fetch steps g pending
        | some bytes =>
          match ← Document.read fetch ⟨false, true, some address⟩ bytes with
          | .error _ => return none
          | .ok d =>
            let including := if want.isInclusion then some source.target else none
            let read := do
              let s ← source? (some address) including d.root
              if !want.isInclusion && s.target ≠ want.space then none
              return (s, ← g.library.with? s.definitions)
            match read with
            | none => return none
            | some (s, library) =>
              let spaces := if want.isInclusion then g.spaces else s.target :: g.spaces
              gather fetch steps ⟨address :: g.addresses, spaces, library⟩
                (s.wants.map (Prod.mk s) ++ pending)

/-- The most documents that a schema may want. -/
def documentLimit : Nat := 1000

/-- The library of a schema that starts with a document. -/
def library (fetch : Fetch m) (address : Option Text) (root : Node) : m (Option Library) := do
  match (do
      let s ← source? address none root
      return (s, ← Library.with? [] s.definitions) : Option (Source × Library)) with
  | none => return none
  | some (s, l) =>
    gather fetch documentLimit ⟨address.toList, [s.target], l⟩ (s.wants.map (Prod.mk s))

end

end SchemaGate.Schema
