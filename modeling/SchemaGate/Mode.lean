import SchemaGate.Failure
import SchemaGate.Json.Value
import SchemaGate.Text.LetterCase

/-!
Validation modes: which schema technology a definition document expects. `auto` and `none` are
signals to the caller; `dtd` and `xsd` are positive determinations. A mode is read from a name in
any letter case or from a number.
-/

namespace SchemaGate

/-- How a document is validated. -/
inductive Mode where
  | none
  | auto
  | dtd
  | xsd
  deriving DecidableEq

namespace Mode

/-- All modes, in the order of their numbers. -/
def all : List Mode := [.none, .auto, .dtd, .xsd]

/-- The name in capitals. -/
def name : Mode → Text
  | .none => "NONE"
  | .auto => "AUTO"
  | .dtd => "DTD"
  | .xsd => "XSD"

/-- The name in small letters, as settings hold it. -/
def smallName : Mode → Text
  | .none => "none"
  | .auto => "auto"
  | .dtd => "dtd"
  | .xsd => "xsd"

def number : Mode → Int
  | .none => 0
  | .auto => 1
  | .dtd => 2
  | .xsd => 3

/-- A description for people. -/
def label : Mode → Text
  | .none => "No validation"
  | .auto => "Auto-detect"
  | .dtd => "DTD (DOCTYPE declaration)"
  | .xsd => "XML Schema"

/-- Does the mode say how to validate? -/
def isDetermined : Mode → Bool
  | .dtd | .xsd => true
  | _ => false

/-- The mode of a name in capitals. -/
def ofName? (name : Text) : Option Mode := all.find? fun m => m.name = name

/-- The mode of a number. -/
def ofNumber? (n : Int) : Option Mode := all.find? fun m => m.number = n

/-- Reads a mode from a name, in any letter case and with blanks around it, or from a number. -/
def parse : Value → Except Failure Mode
  | .text t =>
    match ofName? t.trim.asciiUpper with
    | some m => .ok m
    | .none => .error (.unknownMode (.text t))
  | .int n =>
    match ofNumber? n with
    | some m => .ok m
    | .none => .error (.notAMode n)
  | v => .error (.unknownMode v)

end Mode

end SchemaGate
