import SchemaGate.Failure
import SchemaGate.Text.Cut

/-!
Qualified names in one text: `{namespace}local`, or the local name alone. The namespace ends at the
first closing brace.
-/

namespace SchemaGate.Xml

/-- What follows the opening brace of a qualified name with a namespace. -/
def braced? : Text → Option Text
  | .char '\x7b' :: rest => some rest
  | _ => none

/-- A namespace and a local name in one text. -/
def qualified : Option Text → Text → Text
  | none, localName => localName
  | some namespaceUri, localName => "\x7b" ++ namespaceUri ++ "\x7d" ++ localName

/-- The local name of a qualified name. -/
def localName (name : Text) : Except Failure Text :=
  match braced? name with
  | none => .ok name
  | some rest =>
    match cut? [.char '\x7d'] rest with
    | some (_, after) => .ok after
    | none => .error .unclosedNamespace

/-- The namespace of a qualified name. -/
def namespaceOf (name : Text) : Option Text :=
  (braced? name).map fun rest =>
    match cut? [.char '\x7d'] rest with
    | some (before, _) => before
    | none => rest

end SchemaGate.Xml
