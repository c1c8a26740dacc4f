import SchemaGate.CommandLine.Arguments
import SchemaGate.Loading.Reader
import SchemaGate.Platform

/-!
Running the commands. A command turns a file system into what it writes, what it logs and how it ends:
with a status, or with a failure that it does not handle. Detection goes on behind files that cannot
be read. Loading succeeds when a document was loaded and no error was reported on it.
-/

namespace SchemaGate.CommandLine

/-- What a command does. -/
structure Outcome where
  /-- What it writes. -/
  output : Text
  /-- What it logs, as far as its threshold lets it through. -/
  records : List Record
  ending : Except Failure Nat

/-! ### Logging -/

/-- The threshold until a command has chosen its own. -/
def firstThreshold : Nat := Level.warning.rank

/-- The names of thresholds. -/
def thresholdNames : List (Text × Nat) :=
  [("CRITICAL", 50), ("FATAL", 50), ("ERROR", 40), ("WARNING", 30), ("WARN", 30), ("INFO", 20),
   ("DEBUG", 10), ("NOTSET", 0)]

/-- The names that belong to logging and are no thresholds: the first one stands for a text, and is
refused as the threshold that it spells; the second one stands for something that is no name. -/
def formatName : Text := "BASIC_FORMAT"

def stylesName : Text := "_STYLES"

/-- The threshold that a setting names. A word that is no name at all is as good as `INFO`. -/
def threshold : Value → Except Failure Nat
  | .text t =>
    let name := t.asciiUpper
    if name = formatName then .error (.unknownLevel "%(levelname)s:%(name)s:%(message)s")
    else if name = stylesName then .error .wrongType
    else .ok ((Association.get? name thresholdNames).getD Level.info.rank)
  | _ => .error .noAttribute

/-- An error that the command itself logs. -/
def complaint (message : Text) : Record := ⟨.error, .commandLine, message⟩

/-! ### Detection -/

/-- Detects the mode of one more file, unless an unhandled failure has ended the command. -/
def detectNext (fs : FileSystem) (d : Detection.Detector) (sofar : Outcome) (path : Path) : Outcome :=
  match sofar.ending with
  | .error _ => sofar
  | .ok _ =>
    let (result, w) := (Detection.detectFile d path.text).runIn (World.start fs ())
    let records := sofar.records ++ Run.records w.events
    match result with
    | .ok mode =>
      let line := path.text ++ ": " ++ mode.name ++ "\n"
      { sofar with output := sofar.output ++ line, records := records }
    | .error f =>
      if f.isSystem then
        let message := "Cannot read " ++ path.text ++ ": " ++ f.message?.getD []
        { sofar with records := records ++ [complaint message], ending := .ok 1 }
      else { sofar with records := records, ending := .error f }

/-- Detects the modes of files. -/
def detect (fs : FileSystem) (isVerbose : Bool) (files : List Path) (d : Detection.Detector) : Outcome :=
  let o := files.foldl (detectNext fs d) ⟨[], [], .ok 0⟩
  let threshold := if isVerbose then Level.debug.rank else Level.warning.rank
  { o with records := Record.passing threshold o.records }

/-! ### Loading -/

/-- The settings of a configuration file, or the usual ones, and what was logged meanwhile. -/
def settingsFor (formats : Settings.Formats) (fs : FileSystem) (config : Option Path) :
    Except Failure Settings × List Record :=
  match config with
  | none => (.ok Settings.usual, [])
  | some path =>
    let (result, w) := (Settings.load formats path).runIn (World.start fs ())
    (result, Run.records w.events)

/-- The settings with what the arguments say instead. -/
def overridden (s : Settings) (a : LoadArguments) : Settings :=
  let mode := match a.mode with
    | some m => .text m.smallName
    | none => s.document.validationMode
  let location := if a.schemas.isEmpty then s.schema.mappingsLocation else .text a.schemas
  let paths := if a.searchPaths.isEmpty then s.schema.searchPaths
    else .list (a.searchPaths.map fun p => .text p.text)
  { s with
    schema := ⟨location, paths⟩
    document := { s.document with validationMode := mode } }

/-- What is written about a document that was loaded. -/
def loadedText (file : Path) (d : LoadedDocument) (report : Report) : Text :=
  let summary : Text := if report.entries.isEmpty then "" else report.summary ++ "\n"
  file.text ++ ": " ++ d.mode.name ++ " <" ++ Loading.rootTag d.document ++ ">\n" ++ summary

/-- How a load ends that was heard to the end. A document that cannot be read or loaded is
complained of; any other failure is not handled. -/
def loadEnding (file : Path) (report : Report) (result : Except Failure LoadedDocument) : Outcome :=
  match result with
  | .ok d => ⟨loadedText file d report, [], .ok (if report.isValid then 0 else 1)⟩
  | .error f =>
    if f.isSystem || f.isPipeline then
      let message := "Failed to load " ++ file.text ++ ": " ++ f.message?.getD []
      ⟨[], [complaint message], .ok 1⟩
    else ⟨[], [], .error f⟩

/-- Loads a file with settings and collects what is reported on it. -/
def loadWith (p : Platform) (fs : FileSystem) (s : Settings) (file : Path) : Outcome :=
  match DefinitionReader.ofSettings p.codecs p.engine fs s with
  | .error f => ⟨[], [], .error f⟩
  | .ok reader =>
    let (heard, _) := reader.loadHeard (.collector (some file.text)) (World.start fs ()) file
    let o := loadEnding file (heard.handler.report?.getD .empty) heard.outcome
    { o with records := heard.records ++ o.records }

/-- Loads a document. -/
def load (p : Platform) (fs : FileSystem) (isVerbose : Bool) (a : LoadArguments) : Outcome :=
  let (settings, early) := settingsFor p.formats fs a.config
  let chosen := do
    let s ← settings
    return (s, ← if isVerbose then .ok Level.debug.rank else threshold s.logLevel)
  let early := Record.passing firstThreshold early
  match chosen with
  | .error f => ⟨[], early, .error f⟩
  | .ok (s, threshold) =>
    let o := loadWith p fs (overridden s a) a.file
    { o with records := early ++ Record.passing threshold o.records }

/-- Runs a command. -/
def Invocation.run (p : Platform) (fs : FileSystem) (i : Invocation) : Outcome :=
  match i.command with
  | .detect files encoding => detect fs i.isVerbose files ⟨p.codecs, encoding⟩
  | .load a => load p fs i.isVerbose a

end SchemaGate.CommandLine
