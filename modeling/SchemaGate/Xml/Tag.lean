import SchemaGate.Xml.Reference
import SchemaGate.Xml.Tree

/-!
Start tags. The attributes of a tag are read one after another; those that declare namespaces are
told apart, and once all are read, the prefixes of the element and of its attributes are looked up.
A prefix that is not declared is complained of, and the name then keeps it in its local part.
-/

namespace SchemaGate.Xml

/-- The namespace of the prefix `xml`. -/
def xmlNamespace : Text := "http://www.w3.org/XML/1998/namespace"

/-- The namespace of the prefix `xmlns`. -/
def declarationNamespace : Text := "http://www.w3.org/2000/xmlns/"

/-- A name as it was read: its prefix, if it has one, and its local part. -/
structure WrittenName where
  front : Option Text
  part : Text
  deriving DecidableEq

namespace WrittenName

/-- The name as it is written. -/
def text (n : WrittenName) : Text :=
  match n.front with
  | some p => p ++ ":" ++ n.part
  | none => n.part

/-- The prefix that an attribute of this name declares: none for the namespace of names without a
prefix. The outer option tells whether it declares one at all. -/
def declares? (n : WrittenName) : Option (Option Text) :=
  if n.front = some ("xmlns" : Text) then some (some n.part)
  else if n.front = none ∧ n.part = ("xmlns" : Text) then some none
  else none

/-- The written name of a text, cut at the first colon. -/
def ofText (t : Text) : WrittenName :=
  match cut? [.char ':'] t with
  | some (front, part) => ⟨some front, part⟩
  | none => ⟨none, t⟩

end WrittenName

/-- The namespaces of prefixes, the innermost declarations first. -/
abbrev Scope := List Declaration

/-- The namespace of a prefix in a scope; one that was taken back is none. -/
def Scope.space? (scope : Scope) (front : Option Text) : Option Text :=
  if front = some ("xml" : Text) then some xmlNamespace
  else
    match scope.find? fun d => d.declares = front with
    | some d => if d.address.isEmpty then none else some d.address
    | none => none

namespace Scanner

/-- Reads a name with at most one colon. Colons in other places are complained of and become part
of the local part. -/
def writtenName? : Scanner (Option WrittenName) := do
  match ← plainName? with
  | none =>
    if ← looksAt ":" then
      match ← name? with
      | some cs =>
        complain
        return some ⟨none, Text.ofChars cs⟩
      | none => return none
    else return none
  | some first =>
    if ← accept ":" then
      match ← plainName? with
      | none =>
        complain
        let tail := (← nameToken?).getD []
        return some ⟨none, Text.ofChars (first ++ ':' :: tail)⟩
      | some second =>
        if ← looksAt ":" then
          complain
          advance 1
          let tail := (← name?).getD []
          return some ⟨some (Text.ofChars first), Text.ofChars (second ++ ':' :: tail)⟩
        else return some ⟨some (Text.ofChars first), Text.ofChars second⟩
    else return some ⟨none, Text.ofChars first⟩

/-! ### Namespace declarations -/

/-- Looks at the address of a namespace: it should be an absolute address. -/
def inspectAddress (address : Text) : Scanner Unit := do
  match Address.ofChars? address.chars with
  | none => complain
  | some a => if a.scheme.isNone then warn

/-- May the prefix stand for the address? What is reserved is complained of. -/
def mayDeclare (front : Option Text) (address : Text) : Scanner Bool := do
  match front with
  | none =>
    if address.isEmpty then return true
    inspectAddress address
    if address = xmlNamespace || address = declarationNamespace then
      complain
      return false
    return true
  | some p =>
    if p = ("xml" : Text) then
      if address ≠ xmlNamespace then complain
      return false
    if address = xmlNamespace || p = ("xmlns" : Text) || address = declarationNamespace
      || address.isEmpty then
      complain
      return false
    inspectAddress address
    return true

/-- Adds a declaration to those of a tag; a prefix is declared once. -/
def addDeclaration (done : List Declaration) (front : Option Text) (address : Text) :
    Scanner (List Declaration) := do
  if ← mayDeclare front address then
    if done.any fun d => d.declares = front then fail
    return done ++ [⟨front, address⟩]
  else return done

/-! ### Attributes -/

/-- Reads one attribute of an element: its name and its value. -/
def oneAttribute (p : Prolog) (element : WrittenName) : Scanner (WrittenName × Text) := do
  let name ← need writtenName?
  let _ ← spaces
  expect "="
  let _ ← spaces
  let value ← need (value? p (p.isTokenized element.text name.text))
  if name = ⟨some "xml", "space"⟩ && value ≠ ("default" : Text) && value ≠ ("preserve" : Text) then
    warn
  return (name, value)

/-- Is the tag at its end? -/
def atTagEnd : Scanner Bool := return (← looksAt ">") || (← looksAt "/>")

/-- Reads the attributes of an element: the declarations among them, and the other ones. -/
def attributes (p : Prolog) (element : WrittenName) :
    Nat → List Declaration × List (WrittenName × Text) →
    Scanner (List Declaration × List (WrittenName × Text))
  | 0, _ => fail
  | fuel + 1, (declarations, others) => do
    if ← atTagEnd then return (declarations, others)
    let (name, value) ← oneAttribute p element
    let done ← match name.declares? with
      | some front => pure (← addDeclaration declarations front value, others)
      | none => pure (declarations, others ++ [(name, value)])
    if !(← atTagEnd) then someSpaces
    attributes p element fuel done

/-- The declarations of a tag together with those that the document type gives the element. -/
def withDefaults (p : Prolog) (element : WrittenName) (declarations : List Declaration) :
    List Declaration :=
  (p.defaults element.text).foldl
    (fun done (name, value) =>
      match (WrittenName.ofText name).declares? with
      | some front =>
        if done.any fun d => d.declares = front then done else done ++ [⟨front, value⟩]
      | none => done) declarations

/-- Looks up the prefix of a name. Without a prefix, only names of elements have a namespace. -/
def resolved (scope : Scope) (isElement : Bool) (n : WrittenName) : Scanner Name := do
  match n.front with
  | none => return ⟨none, if isElement then scope.space? none else none, n.part⟩
  | some p =>
    match scope.space? (some p) with
    | some address => return ⟨some p, some address, n.part⟩
    | none =>
      complain
      return ⟨none, none, n.text⟩

/-- Compares an attribute with the ones before it. The same prefix and name may not come twice; the
same name in the same namespace under another prefix is complained of. -/
def checkRepeated (before : List (WrittenName × Option Text)) (n : WrittenName)
    (space : Option Text) : Scanner Unit := do
  match before.find? fun b => b.1.part = n.part ∧ b.2 = space with
  | some b => if b.1.front = n.front then fail else complain
  | none => return ()

/-- Looks up the prefixes of attributes and makes sure that none comes twice. -/
def resolvedAttributes (scope : Scope) (read : List (WrittenName × Text)) :
    Scanner (List Attribute) := do
  let attributes ← read.mapM fun (name, value) => do
    let name ← resolved scope false name
    return (⟨name, value⟩ : Attribute)
  let places := (read.zip attributes).map fun (r, a) => (r.1, a.name.space)
  let _ ← places.foldlM (fun before (n, space) => do
    checkRepeated before n space
    return before ++ [(n, space)]) []
  return attributes

/-- Complains of values of `xml:id` that are no names. -/
def checkIds (attributes : List Attribute) : Scanner Unit :=
  attributes.forM fun a => do
    if a.name.space = some xmlNamespace && a.name.part = ("id" : Text) then
      let cs := a.value.chars
      if !isPlainName (((cs.dropWhile isSpace).reverse.dropWhile isSpace).reverse) then complain

/-- Reads a start tag from behind its first bracket up to its end: the name as it is written, the
head, and the scope inside the element. -/
def startTag (p : Prolog) (scope : Scope) : Scanner (WrittenName × Head × Scope) := do
  let written ← need writtenName?
  let _ ← spaces
  let (declarations, others) ← attributes p written ((← rest).length + 1) ([], [])
  let declarations := withDefaults p written declarations
  let scope := declarations.reverse ++ scope
  let attributes ← resolvedAttributes scope others
  let name ← resolved scope true written
  checkIds attributes
  return (written, ⟨name, declarations, attributes, ← line⟩, scope)

end Scanner

end SchemaGate.Xml
