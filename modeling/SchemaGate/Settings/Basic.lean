import SchemaGate.Association
import SchemaGate.Failure
import SchemaGate.Text.Cut

/-!
Settings. There are three sections and a log level. Reading settings from a value fills in defaults;
it looks only at the shape of the value, so that every setting keeps the value it is given, whatever
its type. What is not a known section is ignored, what is not a known setting of a section is refused.
-/

namespace SchemaGate

/-- How documents are decoded for detection. -/
structure DetectorSettings where
  encoding : Value

/-- Where mapping tables and schemas are found. -/
structure SchemaSettings where
  mappingsLocation : Value
  searchPaths : Value

/-- How documents are loaded. -/
structure DocumentSettings where
  validationMode : Value
  namespaceAware : Value
  noNetwork : Value

/-- All settings. -/
structure Settings where
  detector : DetectorSettings
  schema : SchemaSettings
  document : DocumentSettings
  logLevel : Value

namespace Settings

/-- The settings that hold when nothing is said. -/
def usual : Settings where
  detector := ⟨.text "utf-8"⟩
  schema := ⟨.text "META-INF/beanxml.schemas", .list []⟩
  document := ⟨.text "auto", .bool false, .bool true⟩
  logLevel := .text "INFO"

/-- A field of an object, by a name in ASCII. -/
def named (name : String) (v : Value) : Text × Value := (name, v)

/-- The settings as a value, with every section and setting. -/
def toValue (s : Settings) : Value :=
  .object [
    named "detector" (.object [named "encoding" s.detector.encoding]),
    named "schema" (.object [
      named "mappings_location" s.schema.mappingsLocation,
      named "search_paths" s.schema.searchPaths]),
    named "document" (.object [
      named "validation_mode" s.document.validationMode,
      named "namespace_aware" s.document.namespaceAware,
      named "no_network" s.document.noNetwork]),
    named "log_level" s.logLevel]

/-- Does a value speak of a name? An object has it as a field, a list as an item, and a text
contains it. -/
def mentions (name : String) : Value → Except Failure Bool
  | .object fields => .ok (Association.has (name : Text) fields)
  | .list items => .ok (items.any fun v => v.same (.text name))
  | .text t => .ok (occursIn (name : Text) t)
  | _ => .error .wrongType

/-- The fields of a section, all of them known. -/
def sectionFields (known : List String) : Value → Except Failure (List (Text × Value))
  | .object fields =>
    if fields.all fun f => known.any fun k => f.1 = (k : Text) then .ok fields
    else .error .wrongType
  | _ => .error .wrongType

/-- The value of a field, or a default. -/
def fieldOr (name : String) (fallback : Value) (fields : List (Text × Value)) : Value :=
  (Association.get? (name : Text) fields).getD fallback

/-- The value that a value has under a name; only an object has one. -/
def valueUnder (name : String) : Value → Except Failure Value
  | .object fields =>
    match Association.get? (name : Text) fields with
    | some v => .ok v
    | none => .error .wrongType
  | _ => .error .wrongType

/-- What is read from a part of a value that may be absent. -/
def readPart {α : Type} (name : String) (fallback : α) (read : Value → Except Failure α)
    (v : Value) : Except Failure α := do
  if ← mentions name v then read (← valueUnder name v) else return fallback

def readDetector (v : Value) : Except Failure DetectorSettings := do
  let fields ← sectionFields ["encoding"] v
  return ⟨fieldOr "encoding" usual.detector.encoding fields⟩

def readSchema (v : Value) : Except Failure SchemaSettings := do
  let fields ← sectionFields ["mappings_location", "search_paths"] v
  return ⟨fieldOr "mappings_location" usual.schema.mappingsLocation fields,
    fieldOr "search_paths" usual.schema.searchPaths fields⟩

def readDocument (v : Value) : Except Failure DocumentSettings := do
  let fields ← sectionFields ["validation_mode", "namespace_aware", "no_network"] v
  return ⟨fieldOr "validation_mode" usual.document.validationMode fields,
    fieldOr "namespace_aware" usual.document.namespaceAware fields,
    fieldOr "no_network" usual.document.noNetwork fields⟩

/-- Reads settings from a value. -/
def ofValue (v : Value) : Except Failure Settings := do
  let detector ← readPart "detector" usual.detector readDetector v
  let schema ← readPart "schema" usual.schema readSchema v
  let document ← readPart "document" usual.document readDocument v
  let logLevel ← readPart "log_level" usual.logLevel .ok v
  return ⟨detector, schema, document, logLevel⟩

/-- Do two settings agree in every value? -/
def same (s t : Settings) : Bool := s.toValue.same t.toValue

end Settings

end SchemaGate
