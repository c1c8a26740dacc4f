import SchemaGate.Association
import SchemaGate.Expression
import SchemaGate.Xml.Cursor

/-!
Document types. A document type declares elements, attributes, entities and notations in an internal
and an external subset; what is declared first counts. Names are kept as they are written, prefix and
colon included.
-/

namespace SchemaGate.Xml

/-- What an element may contain. -/
inductive Content where
  | empty
  | any
  /-- Text mixed with elements of these names. -/
  | mixed (names : List Text)
  /-- Elements only, in an order that the model allows. -/
  | elements (model : Expression Text)

inductive AttributeType where
  | characters
  | id
  | idRef
  | idRefs
  | entity
  | entities
  | token
  | tokens
  | notationName (names : List Text)
  | enumeration (names : List Text)

namespace AttributeType

/-- Is white space in a value of the type of no account? -/
def isTokenized : AttributeType → Bool
  | .characters => false
  | _ => true

/-- The words of a value between its spaces. -/
def wordsOf (cs : List Char) : List (List Char) := (cs.splitOn ' ').filter fun w => !w.isEmpty

/-- Are the characters names with spaces between them? -/
def areNames (cs : List Char) : Bool :=
  !cs.isEmpty && cs.head? ≠ some ' ' && cs.getLast? ≠ some ' ' && (wordsOf cs).all isName

/-- Are the characters name tokens with spaces between them? -/
def areTokens (cs : List Char) : Bool := !(wordsOf cs).isEmpty && (wordsOf cs).all isNameToken

/-- Are the values identifiers of their elements? -/
def isId : AttributeType → Bool
  | .id => true
  | _ => false

/-- Is a value spelled as the type demands? -/
def fits (type : AttributeType) (cs : List Char) : Bool :=
  match type with
  | .characters => true
  | .id | .idRef | .entity | .notationName _ => isName cs
  | .idRefs | .entities => areNames cs
  | .token => isNameToken cs
  | .tokens | .enumeration _ => areTokens cs

end AttributeType

inductive AttributeDefault where
  | required
  | implied
  | fixed (value : Text)
  | value (value : Text)

namespace AttributeDefault

/-- The value that is given. -/
def value? : AttributeDefault → Option Text
  | .fixed v | .value v => some v
  | _ => none

end AttributeDefault

structure AttributeDeclaration where
  element : Text
  name : Text
  type : AttributeType
  default : AttributeDefault

/-- What an entity stands for. -/
inductive Entity where
  | internal (replacement : List Char)
  | external (publicId : Option Text) (address : Option Text)
  | unparsed

/-- One of the two subsets of a document type. -/
structure Subset where
  elements : List (Text × Content)
  attributes : List AttributeDeclaration
  notations : List Text
  entities : List (Text × Entity)
  parameters : List (Text × Entity)

namespace Subset

def empty : Subset := ⟨[], [], [], [], []⟩

/-- The declaration of an attribute of an element. -/
def attribute? (s : Subset) (element name : Text) : Option AttributeDeclaration :=
  s.attributes.find? fun a => a.element = element ∧ a.name = name

/-- The attributes that are declared for an element. -/
def attributesOf (s : Subset) (element : Text) : List AttributeDeclaration :=
  s.attributes.filter fun a => a.element = element

end Subset

/-- A document type: what the declaration in the document says, and the subsets as far as they were
read. -/
structure Doctype where
  name : Text
  publicId : Option Text
  systemId : Option Text
  internal : Subset
  external : Option Subset

namespace Doctype

/-- The subsets, in the order in which their declarations count. -/
def subsets (d : Doctype) : List Subset := d.internal :: d.external.toList

end Doctype

/-- What the prolog of a document lays down for its content. -/
structure Prolog where
  doctype : Option Doctype
  /-- Does the document say that it depends on no external declarations? -/
  isStandalone : Bool
  /-- May there be declarations that were not read? -/
  mayMissDeclarations : Bool

namespace Prolog

/-- A prolog that says nothing. -/
def plain : Prolog := ⟨none, false, false⟩

/-- The subsets of the document type. -/
def subsets (p : Prolog) : List Subset := (p.doctype.map Doctype.subsets).getD []

/-- The entity of a name. A document that says it stands alone does not see external ones. -/
def entity? (p : Prolog) (name : Text) : Option Entity :=
  let visible := if p.isStandalone then p.subsets.take 1 else p.subsets
  visible.findSome? fun s => Association.get? name s.entities

/-- The parameter entity of a name. -/
def parameter? (p : Prolog) (name : Text) : Option Entity :=
  p.subsets.findSome? fun s => Association.get? name s.parameters

/-- Is white space in the values of an attribute of no account? -/
def isTokenized (p : Prolog) (element name : Text) : Bool :=
  ((p.subsets.findSome? fun s => s.attribute? element name).map fun a =>
    a.type.isTokenized).getD false

/-- The declarations of attributes of an element that give a value. -/
def defaults (p : Prolog) (element : Text) : List (Text × Text) :=
  p.subsets.flatMap fun s =>
    (s.attributesOf element).filterMap fun a => a.default.value?.map fun v => (a.name, v)

end Prolog

end SchemaGate.Xml
