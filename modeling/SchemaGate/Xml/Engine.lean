import SchemaGate.Files.FileSystem
import SchemaGate.Xml.Asking
import SchemaGate.Xml.Doctype
import SchemaGate.Xml.Tree

/-!
Engines for documents. An engine parses documents and validates them, by a subset of their document
type or by a schema. What it makes of them is its own affair: nothing is known of it here but what it
is asked and what it answers.
-/

namespace SchemaGate.Xml

/-- A document: its prolog and its outermost element. -/
structure Document where
  prolog : Prolog
  root : Node

/-- How documents are read. -/
structure Approach where
  loadsExternalSubset : Bool
  /-- Must nothing be taken from the network? -/
  isOffline : Bool
  /-- The address of the document. -/
  base : Option Text

/-- Why bytes are refused as a document. -/
structure SyntaxFault where
  /-- What the engine says, if it says anything. -/
  wording : Option Text
  /-- The fault in one text. -/
  shown : Text
  line : Option Int

/-- What is said of a fault. -/
def SyntaxFault.message (f : SyntaxFault) : Text :=
  match f.wording with
  | none | some [] => f.shown
  | some wording => wording

/-- How a document is judged: whether it is valid, and what the engine has written down meanwhile. -/
structure Judgement where
  isValid : Bool
  log : List Finding

/-- What speaks against a document. -/
def Judgement.flaws (j : Judgement) : List Finding := if j.isValid then [] else j.log

/-- An engine for documents. -/
structure Engine where
  /-- The document that bytes spell. -/
  parse : Approach → Bytes → Asking (Except SyntaxFault Document)
  /-- Judges a document by a subset of a document type. -/
  judge : Subset → Document → Judgement
  /-- The judge that a schema makes, which was read in this way. A document that is no schema makes
  none; then there is a message. -/
  compile : Approach → Document → Asking (Except Text (Document → Judgement))
  /-- The document type declaration of a document as messages show it. -/
  doctypeText : Document → Text
  /-- What the engine finds at an address by itself. -/
  openItself : (isOffline : Bool) → FileSystem → Text → Option Bytes

end SchemaGate.Xml
