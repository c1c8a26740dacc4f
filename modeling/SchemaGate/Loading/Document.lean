import SchemaGate.Loading.Entity
import SchemaGate.Mode
import SchemaGate.Xml.SchemaLocation
import SchemaGate.Xml.Unqualified

/-!
Loading one document. The source is read as a whole and parsed; depending on the mode the document is
then validated by its document type, by the schema its outermost element names, or not at all. What
the validation finds is reported, and loading itself never stops at that. Namespaces are kept where
that is wanted, and always where a schema validates.

Who is told of problems is left open (`Teller`): a story only takes them down, so that handlers can hear
of them afterwards.
-/

namespace SchemaGate.Loading

open Xml

/-- What loading needs: to make runs and to report problems. -/
structure Teller (σ : Type) (m : Type → Type) where
  run : ∀ {α : Type}, Run σ α → m α
  report : Severity → Finding → m Unit

/-- Takes problems down as events. -/
def Teller.story {σ : Type} : Teller σ (Run σ) := ⟨id, Run.report⟩

variable {σ : Type} {m : Type → Type} [Monad m]

/-! ### Document types -/

/-- The subset that a document is validated by: the external one if it was read, else the internal
one. -/
def validatingSubset? (d : Document) : Option Subset :=
  d.prolog.doctype.map fun t => t.external.getD t.internal

/-- The warning that there is no document type to validate by. -/
def noDoctype (e : Engine) (d : Document) : Finding :=
  ⟨"No DTD available for DOCTYPE '" ++ e.doctypeText d ++ "', skipping validation", none, none⟩

/-- Reports what speaks against a document. -/
def reportFlaws (t : Teller σ m) (j : Judgement) : m Unit := j.flaws.forM fun f => t.report .error f

/-- Validates a document by its document type. -/
def validateByDoctype (t : Teller σ m) (e : Engine) (d : Document) : m Unit :=
  match validatingSubset? d with
  | none => t.report .warning (noDoctype e d)
  | some subset => reportFlaws t (e.judge subset d)

/-! ### Schemas -/

/-- Where the outermost element says the schema for its namespace is; the records are complaints
about the way it says so. -/
def schemaLocation (d : Document) : Option Text × List Record :=
  match d.root.head? with
  | none => (none, [])
  | some h =>
    let hint := fun (name : String) => h.attribute? (some (instanceNamespace : Text)) name
    let (table, records) :=
      schemaLocations (hint "schemaLocation") (hint "noNamespaceSchemaLocation")
    (locationOf? table (namespaceOf h.name.tag), records)

/-- The warning that a document names no schema for its outermost element. -/
def noLocation (d : Document) : Finding :=
  let shown := ((d.root.head?).bind fun h => namespaceOf h.name.tag).getD ("None" : Text)
  ⟨"No schema location declared for namespace [" ++ shown ++ "]", none, none⟩

/-- The warning that there is nothing at the location of a schema. -/
def unresolved (location : Text) : Finding :=
  ⟨"Could not resolve XML schema [" ++ location ++ "], skipping validation", none, none⟩

/-- The failure that a schema at a location is none, for a reason. -/
def notASchema (location reason : Text) : Failure :=
  .document ⟨"Invalid XML schema: " ++ reason, some location, none⟩

/-- Reads the schema that a source at a location spells: the judge that it makes. -/
def readSchema (l : DocumentLoader σ) (location : Text) (source : InputSource) :
    Run σ (Document → Judgement) := do
  let a : Approach := ⟨false, l.isOffline, some location⟩
  match ← (l.engine.parse a (← source.take)).run (fetch l) with
  | .error f => throw (notASchema location f.shown)
  | .ok d =>
    match ← (l.engine.compile a d).run (fetch l) with
    | .error reason => throw (notASchema location reason)
    | .ok judge => return judge

/-- Validates a document by the schema that its outermost element names. -/
def validateBySchema (t : Teller σ m) (l : DocumentLoader σ) (d : Document) : m Unit := do
  let (location, records) := schemaLocation d
  t.run (records.forM fun r => Run.tell (.logged r))
  match location with
  | none => t.report .warning (noLocation d)
  | some location =>
    match ← t.run (resolved l.resolver none (some location)) with
    | none => t.report .warning (unresolved location)
    | some source =>
      let judge ← t.run (readSchema l location source)
      reportFlaws t (judge d)

/-! ### Documents -/

/-- Validates a document in a mode. -/
def validate (t : Teller σ m) (l : DocumentLoader σ) (mode : Mode) (d : Document) : m Unit :=
  match mode with
  | .dtd => validateByDoctype t l.engine d
  | .xsd => validateBySchema t l d
  | .none | .auto => return ()

/-- Reads the document of a source. One that is refused is a fatal problem. -/
def readDocument (t : Teller σ m) (l : DocumentLoader σ) (mode : Mode) (source : InputSource) :
    m Document := do
  let bytes ← t.run source.take
  let a : Approach := ⟨mode = .dtd, l.isOffline, source.systemId⟩
  match ← t.run ((l.engine.parse a bytes).run (fetch l)) with
  | .ok d => return d
  | .error f =>
    t.report .fatal ⟨f.message, f.line, none⟩
    t.run (throw (.document ⟨f.message, source.systemId, f.line⟩))

/-- The document as it is handed out. -/
def finished (mode : Mode) (isNamespaceAware : Bool) (d : Document) : Except Failure Document :=
  if isNamespaceAware || mode = .xsd then .ok d
  else d.root.withoutNamespaces.map fun root => { d with root := root }

/-- The name of the outermost element in one text. -/
def rootTag (d : Document) : Text := ((d.root.head?).map fun h => h.name.tag).getD []

/-- Loads a document in a mode, and tells of its problems as they come up. -/
def loadTelling (t : Teller σ m) (l : DocumentLoader σ) (mode : Mode) (isNamespaceAware : Bool)
    (source : InputSource) : m Document := do
  let shown := SchemaResolver.shownId source.systemId
  t.run (Run.log .debug .document ("Using " ++ mode.name ++ " validation for [" ++ shown ++ "]"))
  let d ← readDocument t l mode source
  validate t l mode d
  let d ← t.run (Run.ofExcept (finished mode isNamespaceAware d))
  t.run (Run.log .debug .document
    ("Loaded document [" ++ shown ++ "] with root <" ++ rootTag d ++ ">"))
  return d

/-- Loads a document in a mode as a story. -/
def load (l : DocumentLoader σ) (mode : Mode) (isNamespaceAware : Bool) (source : InputSource) :
    Run σ Document :=
  loadTelling .story l mode isNamespaceAware source

end SchemaGate.Loading
