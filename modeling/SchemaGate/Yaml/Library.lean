import SchemaGate.Settings.File
import SchemaGate.Yaml.Printer
import SchemaGate.Yaml.Reader

/-!
The library for YAML that a program brings along itself. A number that is too long is found before
anything is written.
-/

namespace SchemaGate.Yaml

open Settings

/-- A fault of YAML text as a failure. -/
def Fault.failure (t : Text) : Fault → Failure
  | .malformed => .yaml
  | .badCodePoint => .badCodePoint
  | .longNumber digits => .longNumber ((Json.Fault.longNumber digits).message t)
  | .noSuchDate message => .noSuchDate message

/-- The library of a program that has no other. -/
def library : YamlLibrary where
  read t := (Yaml.read t).mapError (Fault.failure t)
  print v := if v.holdsLong then .error longNumberFailure else .ok (Yaml.print v)

end SchemaGate.Yaml
