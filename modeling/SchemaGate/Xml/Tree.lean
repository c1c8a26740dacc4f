import SchemaGate.Text.CodePoint

/-!
Trees of XML documents. An element keeps its name as a namespace and a local part together with the
prefix it was written with, its namespace declarations and attributes in the order of the document,
and the line on which its start tag ends. Adjacent character data is one text node.
-/

namespace SchemaGate.Xml

/-- A name: the prefix it was written with, the namespace it belongs to, and the local part. -/
structure Name where
  written : Option Text
  space : Option Text
  part : Text
  deriving DecidableEq

/-- A declaration of a prefix, or of the namespace of names without one. An empty address takes the
declaration of that namespace back. -/
structure Declaration where
  declares : Option Text
  address : Text
  deriving DecidableEq

structure Attribute where
  name : Name
  value : Text
  deriving DecidableEq

/-- What the start tag of an element says, and where it ends. -/
structure Head where
  name : Name
  declarations : List Declaration
  attributes : List Attribute
  line : Nat
  deriving DecidableEq

inductive Node where
  | element (head : Head) (children : List Node)
  | text (content : Text)
  | comment (content : Text)
  | instruction (target content : Text)

namespace Name

/-- The name as it is written in a document. -/
def asWritten (n : Name) : Text :=
  match n.written with
  | some p => p ++ ":" ++ n.part
  | none => n.part

end Name

namespace Head

/-- The value of an attribute. -/
def attribute? (h : Head) (space : Option Text) (part : Text) : Option Text :=
  (h.attributes.find? fun a => a.name.space = space ∧ a.name.part = part).map (·.value)

/-- Does the head declare the prefix? -/
def redeclares (h : Head) (p : Option Text) : Bool := h.declarations.any fun d => d.declares = p

end Head

namespace Node

/-- The head of an element. -/
def head? : Node → Option Head
  | .element head _ => some head
  | _ => none

def children : Node → List Node
  | .element _ children => children
  | _ => []

mutual

/-- How many elements a tree has. -/
def elementCount : Node → Nat
  | .element _ children => elementCountOf children + 1
  | _ => 0

/-- How many elements trees have together. -/
def elementCountOf : List Node → Nat
  | [] => 0
  | n :: rest => n.elementCount + elementCountOf rest

end

end Node

end SchemaGate.Xml
