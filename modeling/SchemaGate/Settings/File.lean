import SchemaGate.Json.Printer
import SchemaGate.Json.Reader
import SchemaGate.Run
import SchemaGate.Settings.Basic
import SchemaGate.Text.LetterCase

/-!
Settings files. The suffix of the name tells the format. Saving makes the directories above the file
and empties the file before it looks at the format; what was written before a failure stays.
-/

namespace SchemaGate.Settings

/-- A library for YAML. -/
structure YamlLibrary where
  /-- The value that a text spells. -/
  read : Text → Except Failure Value
  /-- The text that spells a value. What cannot be written is found before anything is. -/
  print : Value → Except Failure Text

/-- What settings files are read and written with. -/
structure Formats where
  /-- The library for YAML, if there is one. -/
  yaml : Option YamlLibrary
  /-- How deep values in JSON may be nested, if there are bounds. -/
  nesting : Option Nat

/-- The formats of settings files. -/
inductive Format where
  | json (nesting : Option Nat)
  | yaml (library : YamlLibrary)

/-- The suffix of a file name in small letters. -/
def suffixOf (p : Path) : Text := p.suffix.lower

/-- The format that a suffix stands for. YAML may be missing. -/
def formatOf (formats : Formats) (suffix : Text) : Except Failure Format :=
  if suffix = (".yaml" : Text) ∨ suffix = (".yml" : Text) then
    match formats.yaml with
    | some library => .ok (.yaml library)
    | none => .error .yamlMissing
  else if suffix = (".json" : Text) then .ok (.json formats.nesting)
  else .error (.unsupportedFormat suffix)

/-- A fault of JSON text as a failure. -/
def jsonFailure (t : Text) (f : Json.Fault) : Failure :=
  match f with
  | .syntaxAt .. => .json (f.message t)
  | .longNumber _ => .longNumber (f.message t)
  | .tooDeep _ => .tooDeep (f.message t)

/-- The value that the text of a settings file spells. In YAML nothing is an empty object. -/
def readFormat (format : Format) (t : Text) : Except Failure Value :=
  match format with
  | .json nesting => (Json.read nesting t).mapError (jsonFailure t)
  | .yaml library => (library.read t).map fun v => if v.isTruthy then v else .object []

/-- That a number is too long to write. -/
def longNumberFailure : Failure :=
  .longNumber ("Exceeds the limit (" ++ Text.ofNat Json.digitLimit
    ++ " digits) for integer string conversion; use sys.set_int_max_str_digits() to increase the limit")

/-- The text of a settings file as far as it is written, and how writing it ends. JSON is written piece
by piece; YAML as a whole. -/
def printFormat (format : Format) (v : Value) : Text × Except Failure Unit :=
  match format with
  | .json _ =>
    match Json.frontAt 0 v with
    | some front => (front, .error longNumberFailure)
    | none => (Json.printIndented v, .ok ())
  | .yaml library =>
    match library.print v with
    | .ok t => (t, .ok ())
    | .error f => ([], .error f)

/-- The bytes of a text that is written. -/
def bytesOf (t : Text) : Bytes := (Text.toBytes? t).getD []

/-- The text of a file in UTF-8, with every line end read as a newline. -/
def decodeFile (bytes : Bytes) : Except Failure Text :=
  match Encoding.utf8.decodeAll bytes with
  | .ok cs => .ok (Text.joinNewlines (cs.map .char))
  | .error _ => .error .undecodable

/-- Loads settings from a file. -/
def load {σ : Type} (formats : Formats) (p : Path) : Run σ Settings := do
  if !(← Run.askFiles fun fs => fs.pathExists p.text) then
    throw (.system .notFound ("Config file not found: " ++ p.text))
  let bytes ← Run.askFiles fun fs => fs.read p.text
  let format ← Run.ofExcept (formatOf formats (suffixOf p))
  let text ← Run.ofExcept (decodeFile bytes)
  let value ← Run.ofExcept (readFormat format text)
  Run.log .info .settings ("Loaded configuration from " ++ p.text)
  Run.ofExcept (ofValue value)

/-- Saves settings to a file. -/
def save {σ : Type} (formats : Formats) (s : Settings) (p : Path) : Run σ Unit := do
  Run.attemptFiles fun fs => fs.makeTree p.parent
  Run.changeFiles fun fs => fs.write p.text []
  let format ← Run.ofExcept (formatOf formats (suffixOf p))
  let (text, ending) := printFormat format s.toValue
  Run.changeFiles fun fs => fs.write p.text (bytesOf text)
  Run.ofExcept ending
  Run.log .info .settings ("Saved configuration to " ++ p.text)

end SchemaGate.Settings
