import SchemaGate.Detection.File
import SchemaGate.Hearing
import SchemaGate.Loading.Document
import SchemaGate.Settings.Basic

/-!
Readers of definition documents. A reader picks a mode for a file, the configured one or else the one
it detects, and loads the file in that mode. Where detection gives up a schema is expected.
-/

namespace SchemaGate

/-- What a reader works with. -/
structure DefinitionReader (σ : Type) where
  engine : Xml.Engine
  /-- Must the engine take nothing from the network? -/
  isOffline : Bool
  resolver : SchemaResolver σ
  mode : Mode
  isNamespaceAware : Bool
  /-- Detects the mode of files. -/
  detector : Detection.Detector

/-- A document that was loaded from a file. -/
structure LoadedDocument where
  path : Path
  mode : Mode
  document : Xml.Document

namespace DefinitionReader

variable {σ : Type}

/-- The encoding for detection unless another is given. -/
def usualEncoding : Text := "utf-8"

/-! ### From settings -/

/-- The directories that a setting names; nothing stands for the current one. -/
def searchPaths : Value → Except Failure (List Text)
  | .text t => .ok (t.map fun c => [c])
  | .object fields => .ok (fields.map Prod.fst)
  | .list items => items.mapM fun
    | .text t => .ok t
    | _ => .error .wrongType
  | v => if v.isTruthy then .error .wrongType else .ok []

/-- The location of the mapping table that a setting names. -/
def mappingsLocation : Value → Except Failure Text
  | .text t => .ok t
  | v => if v.isTruthy then .error .noAttribute else .error .blankLocation

/-- The encoding that a setting names. -/
def encodingOf : Value → Except Failure Text
  | .text t => (Encoding.lookup t).map fun _ => t
  | _ => .error .wrongType

/-- The reader that settings describe. -/
def ofSettings (codecs : Codecs) (engine : Xml.Engine) (fs : FileSystem) (s : Settings) :
    Except Failure (DefinitionReader σ) := do
  let directories ← searchPaths s.schema.searchPaths
  let loader := DirectoryLoader.ofPaths codecs fs directories DirectoryLoader.usualEncoding
  let location ← mappingsLocation s.schema.mappingsLocation
  let resolver ← SchemaResolver.create loader.toLoader location
  let mode ← Mode.parse s.document.validationMode
  let encoding ← encodingOf s.detector.encoding
  return ⟨engine, s.document.noNetwork.isTruthy, resolver, mode, s.document.namespaceAware.isTruthy,
    ⟨codecs, encoding⟩⟩

/-! ### Loading -/

/-- What the reader loads documents with. -/
def documents (r : DefinitionReader σ) : DocumentLoader σ := ⟨r.engine, r.isOffline, some r.resolver⟩

/-- The mode in which a file is loaded. -/
def modeFor (r : DefinitionReader σ) (path : Path) : Run σ Mode := do
  if r.mode ≠ .auto then return r.mode
  let detected ← Detection.detectFile r.detector path.text
  if detected ≠ .auto then return detected
  Run.log .debug .reader
    ("Validation mode for " ++ path.text ++ " could not be detected, assuming XSD")
  return .xsd

/-- Loads a file. -/
def load (r : DefinitionReader σ) (path : Path) : Run σ LoadedDocument := do
  let mode ← r.modeFor path
  let source ← Run.askFiles fun fs => InputSource.ofPath fs path.text
  let isNamespaceAware := r.isNamespaceAware || mode = .xsd
  let d ← Loading.load r.documents mode isNamespaceAware source
  Run.log .info .reader ("Loaded " ++ path.name ++ " (" ++ mode.name ++ " validation)")
  return ⟨path, mode, d⟩

/-- Loads a file in a world while a handler hears of it: what comes of that, and the world it leaves. -/
def loadHeard (r : DefinitionReader σ) (h : Handler) (w : World σ) (path : Path) :
    Heard LoadedDocument × World σ :=
  let (outcome, w) := (r.load path).runIn { w with events := [] }
  (h.attend w.events outcome, w)

end DefinitionReader

end SchemaGate
