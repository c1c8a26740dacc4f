import SchemaGate.Association
import SchemaGate.Xml.QualifiedName
import SchemaGate.Xml.Tag

/-!
Trees without namespaces. Every element takes its local name as its whole name; attributes keep
theirs. If that name has a namespace again, the element goes by a prefix that stands for it.
Declarations that no name relies on any more are dropped, wherever they stand.
-/

namespace SchemaGate.Xml

namespace Name

/-- The name in one text. -/
def tag (n : Name) : Text := qualified n.space n.part

/-- Does the name rely on the declaration of a prefix? Names without a namespace rely on none. -/
def reliesOn (n : Name) (p : Option Text) : Bool := n.written = p && n.space.isSome

/-- The name that an element takes when it is given a text as its name. -/
def ofTag (tag : Text) : Except Failure Name :=
  let (space, part) := match (braced? tag).bind (cut? [.char '\x7d']) with
    | some (space, part) => (if space.isEmpty then none else some space, part)
    | none => (none, tag)
  if isPlainName (Text.chars part) then .ok ⟨none, space, part⟩ else .error (.invalidTag part)

/-- The name cut down to its local part. The cut is made in the text of the name, so that a namespace
with a closing brace in it leaves a rest, which is seldom a name. -/
def withoutSpace (n : Name) : Except Failure Name :=
  match n.space with
  | none => .ok n
  | some _ => do ofTag (← localName n.tag)

end Name

/-! ### Prefixes -/

namespace Scope

/-- The innermost declaration of a namespace whose prefix still stands for it. -/
def declarationOf? (scope : Scope) (u : Text) : Option Declaration :=
  scope.find? fun d => d.address = u && scope.space? d.declares = some u

/-- Is the prefix declared? -/
def declares (scope : Scope) (p : Text) : Bool := scope.any fun d => d.declares = some p

/-- The prefix with a number. -/
def numbered (n : Nat) : Text := "ns" ++ Text.ofNat n

/-- The usual prefixes of some namespaces. -/
def customary : List (Text × Text) :=
  [("http://www.w3.org/1999/xhtml", "html"), ("http://www.w3.org/1999/XSL/Transform", "xsl"),
    ("http://www.w3.org/1999/02/22-rdf-syntax-ns#", "rdf"), ("http://schemas.xmlsoap.org/wsdl/", "wsdl"),
    ("http://www.w3.org/2001/XMLSchema", "xs"), ("http://www.w3.org/2001/XMLSchema-instance", "xsi"),
    ("http://purl.org/dc/elements/1.1/", "dc")]

/-- A prefix that is not declared, and the number for the next one. Of more numbers than there are
declarations, one gives such a prefix. -/
def freshPrefix (scope : Scope) (next : Nat) (u : Text) : Text × Nat :=
  match (Association.get? u customary).filter fun p => !scope.declares p with
  | some p => (p, next)
  | none =>
    let n := ((List.range' next (scope.length + 1)).find? fun n => !scope.declares (numbered n)).getD next
    (numbered n, n + 1)

end Scope

namespace Head

/-- The element under a prefix that stands for its namespace: one that is declared, or else a new one
that it declares. -/
def prefixed (scope : Scope) (next : Nat) (h : Head) : Head × Nat :=
  match h.name.space with
  | none => (h, next)
  | some u =>
    let inside : Scope := h.declarations ++ scope
    if u = xmlNamespace then ({ h with name := { h.name with written := some "xml" } }, next)
    else
      match inside.declarationOf? u with
      | some d => ({ h with name := { h.name with written := d.declares } }, next)
      | none =>
        let (p, next) := inside.freshPrefix next u
        ({ h with
            name := { h.name with written := some p }
            declarations := h.declarations ++ [⟨some p, u⟩] }, next)

/-- Does a name in the head rely on the declaration of a prefix? -/
def reliesOn (h : Head) (p : Option Text) : Bool :=
  h.name.reliesOn p || h.attributes.any fun a => a.name.reliesOn p

end Head

namespace Node

mutual

/-- Does a name in the node rely on the declaration of a prefix outside of it? -/
def reliesOn (p : Option Text) : Node → Bool
  | .element h children => !h.redeclares p && (h.reliesOn p || anyReliesOn p children)
  | _ => false

/-- Does a name in any of the nodes rely on the declaration of a prefix outside of them? -/
def anyReliesOn (p : Option Text) : List Node → Bool
  | [] => false
  | n :: rest => n.reliesOn p || anyReliesOn p rest

end

mutual

/-- The tree without the declarations that no name relies on. -/
def tidied : Node → Node
  | .element h children =>
    let used := h.declarations.filter fun d =>
      h.reliesOn d.declares || anyReliesOn d.declares children
    .element { h with declarations := used } (allTidied children)
  | n => n

/-- The trees without the declarations that no name relies on. -/
def allTidied : List Node → List Node
  | [] => []
  | n :: rest => n.tidied :: allTidied rest

end

mutual

/-- The tree with every element cut down to its local name. -/
def renamed : Node → Except Failure Node
  | .element h children => do
    let name ← h.name.withoutSpace
    let children ← allRenamed children
    return .element { h with name := name } children
  | n => .ok n

/-- The trees with every element cut down to its local name. -/
def allRenamed : List Node → Except Failure (List Node)
  | [] => .ok []
  | n :: rest => do
    let n ← n.renamed
    let rest ← allRenamed rest
    return n :: rest

end

mutual

/-- The tree with every element in a namespace under a prefix that stands for it, in the order of the
document. -/
def prefixed (scope : Scope) (next : Nat) : Node → Node × Nat
  | .element h children =>
    let (h, next) := h.prefixed scope next
    let (children, next) := allPrefixed (h.declarations ++ scope) next children
    (.element h children, next)
  | n => (n, next)

/-- The trees with every element in a namespace under a prefix that stands for it. -/
def allPrefixed (scope : Scope) (next : Nat) : List Node → List Node × Nat
  | [] => ([], next)
  | n :: rest =>
    let (n, next) := n.prefixed scope next
    let (rest, next) := allPrefixed scope next rest
    (n :: rest, next)

end

/-- The tree without namespaces of elements, and without declarations that are of no use. -/
def withoutNamespaces (n : Node) : Except Failure Node := do
  return ((← n.renamed).prefixed [] 0).1.tidied

end Node

end SchemaGate.Xml
