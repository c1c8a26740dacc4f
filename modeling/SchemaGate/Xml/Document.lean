import SchemaGate.Xml.Element
import SchemaGate.Xml.Engine
import SchemaGate.Xml.Subset

/-!
Documents. A document is a declaration, a document type and an element, with comments and instructions
around them. The external subset is asked for only where that is wanted. The outcome is a document or
the line on which it is refused.
-/

namespace SchemaGate.Xml

namespace Document

variable {m : Type → Type} [Monad m]

/-- Reads the declaration of a document, and goes on in the encoding that it declares. -/
def declaration (bytes : Bytes) : Scanner DocumentDeclaration := do
  let first := sniff bytes
  let body := bytes.drop first.mark
  if (← Scanner.rest).isEmpty then Scanner.fail
  let whole ← Scanner.rest
  let d ← Scanner.documentDeclaration first.isCertain
  match d.encoding with
  | none => return d
  | some encoding =>
    let read := whole.length - (← Scanner.rest).length
    Scanner.jump ⟨(joinPairs (decode encoding body)).drop read, ← Scanner.line⟩
    return d

/-- Skips white space, comments and instructions. -/
def miscellany : Scanner Unit := do Scanner.miscellany ((← Scanner.rest).length + 1)

/-- Reads the start of a document type, behind its word. -/
def doctypeStart : Scanner Doctype := do
  Scanner.someSpaces
  let name ← Scanner.need Scanner.name?
  let _ ← Scanner.spaces
  let (publicId, systemId) := (← Scanner.externalId? true).getD (none, none)
  let _ ← Scanner.spaces
  return ⟨Text.ofChars name, publicId, systemId, .empty, none⟩

/-- Asks for the external subset and reads it. Its faults are reported on its own lines. -/
def externalSubset (fetch : Fetch m) (base : Option Text) (p : Prolog) (t : Doctype) :
    AskingScanner m Prolog := do
  let system := (t.systemId.getD []).chars
  match Address.resolve? (base.map Text.chars) system with
  | none =>
    AskingScanner.plain Scanner.warn
    return p
  | some address =>
    match ← monadLift (fetch ⟨t.publicId, Text.ofChars address⟩) with
    | none =>
      AskingScanner.plain Scanner.warn
      return p
    | some bytes =>
      let p := { p with doctype := some { t with external := some .empty } }
      AskingScanner.elsewhere do
        let cs ← AskingScanner.plain (AskingScanner.entityCharacters bytes)
        modify fun s => { s with cursor := ⟨cs, s.cursor.line⟩ }
        AskingScanner.declarations fetch Scanner.nestingLimit ⟨true, true, some system⟩ []
          (cs.length + 1) 0 p

/-- Reads a document type, behind its word. -/
def doctype (fetch : Fetch m) (a : Approach) (p : Prolog) : AskingScanner m Prolog := do
  let t ← AskingScanner.plain doctypeStart
  let hasExternal := t.publicId.isSome || t.systemId.isSome
  let p := { p with doctype := some t, mayMissDeclarations := hasExternal }
  let p ← if ← AskingScanner.plain (Scanner.accept "[") then do
      let p ← AskingScanner.declarations fetch Scanner.nestingLimit
        ⟨false, false, a.base.map Text.chars⟩ [] ((← get).cursor.rest.length + 1) 0 p
      AskingScanner.plain do
        Scanner.expect "]"
        let _ ← Scanner.spaces
      pure p
    else pure p
  AskingScanner.plain (Scanner.expect ">")
  match p.doctype with
  | some t =>
    if a.loadsExternalSubset && hasExternal then externalSubset fetch a.base p t else return p
  | none => return p

/-- Reads a whole document. -/
def reading (fetch : Fetch m) (a : Approach) (bytes : Bytes) : AskingScanner m Document := do
  let d ← AskingScanner.plain (declaration bytes)
  AskingScanner.plain miscellany
  let p : Prolog := ⟨none, d.isStandalone, false⟩
  let p ← if ← AskingScanner.plain (Scanner.accept "<!DOCTYPE") then doctype fetch a p
    else pure p
  AskingScanner.plain do
    miscellany
    let root ← Scanner.rootElement p
    miscellany
    if !(← Scanner.rest).isEmpty then Scanner.fail
    return ⟨p, root⟩

/-- The document that bytes spell, or the line on which they are refused. -/
def read (fetch : Fetch m) (a : Approach) (bytes : Bytes) : m (Except Nat Document) := do
  let first := sniff bytes
  let start := Scan.start (decode first.encoding (bytes.drop first.mark))
  match ← ((reading fetch a bytes).run start).run with
  | .error line => return .error line
  | .ok (d, s) =>
    match s.refusal? with
    | some line => return .error line
    | none => return .ok d

/-- The document that bytes spell, where there is nothing to ask for. -/
def readAlone (bytes : Bytes) : Except Nat Document :=
  Id.run (read (fun _ => pure none) ⟨false, true, none⟩ bytes)

end Document

end SchemaGate.Xml
