import SchemaGate.Schema.Reader
import SchemaGate.Schema.Validation
import SchemaGate.Xml.Document
import SchemaGate.Xml.Validity

/-!
The engine that a program brings along itself: its own parser, and validators for document types and
for schemas. It says where something is wrong and not what. The network is never asked; what a resolver
does not know is read from the file system if the address is that of a file.
-/

namespace SchemaGate.Xml

namespace Engine.BuiltIn

/-- Stands for the wording of a fault, which is no part of any contract. -/
def faultWording : Text := "<libxml2>"

/-- A fault on a line. -/
def faultAt (line : Nat) : SyntaxFault := ⟨some faultWording, faultWording, some line⟩

/-- Parses a document. -/
def parse (a : Approach) (bytes : Bytes) : Asking (Except SyntaxFault Document) := do
  return (← Document.read Asking.one a bytes).mapError faultAt

/-- The entry for a flaw by a document type. -/
def flawFinding (f : Flaw) : Finding := ⟨faultWording, some ((f.line.map Int.ofNat).getD (-1)), some 0⟩

/-- Judges a document by a subset. -/
def judge (s : Subset) (d : Document) : Judgement :=
  let flaws := validityFlaws s d.prolog.isStandalone d.root
  ⟨flaws.isEmpty, flaws.map flawFinding⟩

/-- Judges a document by the components of a schema. -/
def judgeByComponents (components : Schema.Components) (d : Document) : Judgement :=
  let lines := Schema.flaws components d.root
  ⟨lines.isEmpty, lines.map fun (line : Nat) => ⟨faultWording, some line, some 0⟩⟩

/-- Compiles a schema. -/
def compile (a : Approach) (d : Document) : Asking (Except Text (Document → Judgement)) := do
  match (← Schema.library Asking.one a.base d.root).bind Schema.Library.components? with
  | none => return .error faultWording
  | some components => return .ok (judgeByComponents components)

/-! ### Document types -/

/-- A text in the quotes that suit a system identifier. -/
def systemLiteral (id : Text) : Text :=
  let quote : Text := if id.contains (.char '"') then "'" else "\""
  quote ++ id ++ quote

/-- The document type declaration of a document without its internal subset, empty if there is
none. -/
def doctypeText (d : Document) : Text :=
  match d.prolog.doctype with
  | none => []
  | some t =>
    let name : Text := ((d.root.head?).map fun h => h.name.part).getD []
    let publicId := t.publicId.filter fun id => !id.isEmpty
    let systemId := t.systemId.filter fun id => !id.isEmpty
    let ids : Text := match publicId, systemId with
      | some p, some s => " PUBLIC \"" ++ p ++ "\" " ++ systemLiteral s
      | some p, none => " PUBLIC \"" ++ p ++ "\""
      | none, some s => " SYSTEM " ++ systemLiteral s
      | none, none => ""
    "<!DOCTYPE " ++ name ++ ids ++ ">"

/-! ### Files -/

/-- The bytes of the file at an address, if there is one. -/
def fileAt (fs : FileSystem) (address : Text) : Option Bytes := do
  let path ← Text.ofBytes? (← Address.filePath? (Text.chars address))
  (fs.read path).toOption

end Engine.BuiltIn

/-- The engine of a program that has no other. -/
def Engine.builtIn : Engine where
  parse := BuiltIn.parse
  judge := BuiltIn.judge
  compile := BuiltIn.compile
  doctypeText := BuiltIn.doctypeText
  openItself _ := BuiltIn.fileAt

end SchemaGate.Xml
