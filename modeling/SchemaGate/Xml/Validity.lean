import SchemaGate.Text.Cut
import SchemaGate.Xml.Doctype
import SchemaGate.Xml.Tag

/-!
Validity against a document type. The elements of a document are checked in their order: content,
attributes that are missing, attributes and namespace declarations that are there; references to
identifiers are checked at the end. Names are compared as they are written, and a prefixed name that
is not declared stands for its local part.
-/

namespace SchemaGate.Xml

/-- A flaw: its line, if it has one, and whether it makes the document invalid. -/
structure Flaw where
  line : Option Nat
  isGrave : Bool
  deriving DecidableEq

/-- A reference to identifiers and the line of its element. -/
structure IdReference where
  line : Nat
  names : List (List Char)

/-- What is known of the elements checked so far. -/
structure Inspection where
  flaws : List Flaw
  ids : List Text
  references : List IdReference
  /-- Elements whose content model turned out to be ambiguous. -/
  ambiguous : List Text

mutual

/-- The elements of a tree in the order of the document: head and children. -/
def Node.elements : Node → List (Head × List Node)
  | .element h children => (h, children) :: allElements children
  | _ => []

/-- The elements of trees in the order of the document. -/
def allElements : List Node → List (Head × List Node)
  | [] => []
  | n :: rest => n.elements ++ allElements rest

end

namespace Validity

/-- The names under which something may be declared: as it is written, then its local part. -/
def namesOf (n : Name) : List Text :=
  if n.written.isSome then [n.asWritten, n.part] else [n.asWritten]

/-- The declared content of an element, with the name it is declared under. -/
def contentOf? (s : Subset) (n : Name) : Option (Text × Content) :=
  (namesOf n).findSome? fun name => (Association.get? name s.elements).map fun c => (name, c)

/-- The declaration of an attribute of an element. -/
def attributeOf? (s : Subset) (element : Name) (written : Text) : Option AttributeDeclaration :=
  (namesOf element).findSome? fun name => s.attribute? name written

/-! ### Content -/

/-- The names of the elements among nodes. -/
def elementNames (children : List Node) : List Name :=
  children.filterMap fun n => n.head?.map Head.name

/-- Is there text among nodes that is not white space? -/
def hasText (children : List Node) : Bool :=
  children.any fun
    | .text t => !t.chars.all isSpace
    | _ => false

/-- Is there a text among nodes that is nothing but white space? -/
def hasSpace (children : List Node) : Bool :=
  children.any fun
    | .text t => t.chars.all isSpace
    | _ => false

/-- The local part of a declared name. -/
def localPart (name : Text) : Text := (WrittenName.ofText name).part

/-- Does the next name always tell its place in a content model? -/
def hasClearModel (model : Expression Text) : Bool := model.isDeterministic fun a b => a = b

/-- How many flaws the children of an element are, by its declared content. White space between
elements is one where the document stands alone. -/
def contentFlaws (isStandalone : Bool) (content : Content) (children : List Node) : Nat :=
  let names := elementNames children
  match content with
  | .empty => if children.isEmpty then 0 else 1
  | .any => 0
  | .mixed [] => if names.isEmpty then 0 else 1
  | .mixed allowed =>
    (names.filter fun n => !allowed.any fun a => localPart a = n.part).length
  | .elements model =>
    (if isStandalone && hasSpace children then 1 else 0)
      + if !hasClearModel model then 0
        else if !hasText children
          && model.accepts (fun a b => decide (a = b)) (names.map Name.asWritten) then 0
        else 1

/-- Does the content have a model that is ambiguous? -/
def isAmbiguous : Content → Bool
  | .elements model => !hasClearModel model
  | _ => false

/-! ### Attributes -/

/-- Does the head carry a required attribute? An attribute of the right local name under another
prefix is a flaw that is not grave. -/
def missingFlaws (h : Head) (d : AttributeDeclaration) : List Bool :=
  let name := WrittenName.ofText d.name
  match name.declares? with
  | some front => if h.redeclares front then [] else [true]
  | none =>
    match h.attributes.filter fun a => a.name.part = name.part with
    | [] => [true]
    | found =>
      match name.front with
      | none => []
      | some front =>
        let prefixOf := fun (a : Attribute) =>
          if a.name.space.isSome then a.name.written else h.name.written
        if found.any fun a => prefixOf a = some front then [] else [false]

/-- Does a namespace declaration of the head differ from a fixed one? -/
def fixedFlaws (h : Head) (d : AttributeDeclaration) : Nat :=
  match (WrittenName.ofText d.name).declares?, d.default with
  | some front, .fixed value =>
    match h.declarations.find? fun x => x.declares = front with
    | some x => if x.address = value then 0 else 1
    | none => 0
  | _, _ => 0

/-- The flaws of the attributes that are declared for an element, whether they are there or not. -/
def declaredFlaws (s : Subset) (name : Text) (h : Head) : List Bool :=
  (s.attributesOf name).flatMap fun d =>
    match d.default with
    | .required => missingFlaws h d
    | _ => List.replicate (fixedFlaws h d) true

/-- How many flaws a value has by the type and the default of its attribute, the uniqueness of
identifiers aside. A value that is not the fixed one is two flaws. -/
def valueFlaws (s : Subset) (d : AttributeDeclaration) (value : Text) : Nat :=
  let spelling := if d.type.fits value.chars then 0 else 1
  let fixed := match d.default with
    | .fixed v => if v = value then 0 else 2
    | _ => 0
  let listed := match d.type with
    | .notationName names =>
      (if s.notations.contains value then 0 else 1) + if names.contains value then 0 else 1
    | .enumeration names => if names.contains value then 0 else 1
    | _ => 0
  spelling + fixed + listed

/-- How many of the entities that a value names are not declared as unparsed. -/
def entityFlaws (s : Subset) (d : AttributeDeclaration) (value : Text) : Nat :=
  let names := match d.type with
    | .entity => [value.chars]
    | .entities => AttributeType.wordsOf value.chars
    | _ => []
  (names.filter fun n =>
    match Association.get? (Text.ofChars n) s.entities with
    | some .unparsed => false
    | _ => true).length

/-- The flaws of a value in all, given whether it repeats an identifier. -/
def allValueFlaws (s : Subset) (d : AttributeDeclaration) (value : Text) (isRepeated : Bool) : Nat :=
  let n := valueFlaws s d value + if isRepeated then 1 else 0
  if n = 0 then entityFlaws s d value else n

/-- The identifiers that the value of an attribute of a type refers to. -/
def referredBy (type : AttributeType) (value : List Char) : List (List Char) :=
  match type with
  | .idRef => [value]
  | .idRefs => AttributeType.wordsOf value
  | _ => []

/-- Checks one attribute. -/
def inspectAttribute (s : Subset) (h : Head) (i : Inspection) (a : Attribute) : Inspection :=
  match attributeOf? s h.name a.name.asWritten with
  | none => { i with flaws := i.flaws ++ [⟨some h.line, true⟩] }
  | some d =>
    let n := allValueFlaws s d a.value (d.type.isId && i.ids.contains a.value)
    { i with
      flaws := i.flaws ++ List.replicate n ⟨some h.line, true⟩
      ids := if d.type.isId then i.ids ++ [a.value] else i.ids
      references := i.references ++ [⟨h.line, referredBy d.type a.value.chars⟩] }

/-- How many flaws a namespace declaration has. -/
def declarationFlaws (s : Subset) (h : Head) (d : Declaration) : Nat :=
  let written : Text := match d.declares with
    | some p => "xmlns:" ++ p
    | none => "xmlns"
  match attributeOf? s h.name written with
  | none => 1
  | some a => allValueFlaws s a d.address false

/-! ### Documents -/

/-- Checks the content of an element and the attributes that are declared for it. -/
def inspectDeclared (s : Subset) (isStandalone : Bool) (h : Head) (children : List Node)
    (i : Inspection) : Inspection :=
  let here := fun isGrave => Flaw.mk (some h.line) isGrave
  match contentOf? s h.name with
  | none => { i with flaws := i.flaws ++ [here true] }
  | some (name, content) =>
    let isNews := isAmbiguous content && !i.ambiguous.contains name
    { i with
      flaws := i.flaws ++ (if isNews then [⟨none, false⟩] else [])
        ++ List.replicate (contentFlaws isStandalone content children) (here true)
        ++ (declaredFlaws s name h).map here
      ambiguous := if isNews then i.ambiguous ++ [name] else i.ambiguous }

/-- Checks one element. -/
def inspectElement (s : Subset) (isStandalone : Bool) (i : Inspection)
    (e : Head × List Node) : Inspection :=
  let (h, children) := e
  let i := inspectDeclared s isStandalone h children i
  let i := h.attributes.foldl (inspectAttribute s h) i
  let more := h.declarations.flatMap fun d =>
    List.replicate (declarationFlaws s h d) ⟨some h.line, true⟩
  { i with flaws := i.flaws ++ more }

/-- The references that lead to no identifier. -/
def danglingFlaws (i : Inspection) : List Flaw :=
  i.references.flatMap fun r =>
    (r.names.filter fun n => !i.ids.contains (Text.ofChars n)).map fun _ => ⟨some r.line, true⟩

/-- All flaws of a document by a subset, in the order in which they are found. -/
def flaws (s : Subset) (isStandalone : Bool) (root : Node) : List Flaw :=
  let i := root.elements.foldl (inspectElement s isStandalone) ⟨[], [], [], []⟩
  i.flaws ++ danglingFlaws i

end Validity

/-- The flaws of a document that is not valid; where none is grave the document is valid. -/
def validityFlaws (s : Subset) (isStandalone : Bool) (root : Node) : List Flaw :=
  let found := Validity.flaws s isStandalone root
  if found.any Flaw.isGrave then found else []

end SchemaGate.Xml
