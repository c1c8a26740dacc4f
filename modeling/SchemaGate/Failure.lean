import SchemaGate.Json.Value

/-!
What can go wrong. A failure names its cause; the wording of all of them is in `Failure.message?`.
The causes whose wording is not part of any contract have none.
-/

namespace SchemaGate

/-- The kinds of refusal of the operating system. -/
inductive SystemFault where
  | notFound
  | permission
  | alreadyExists
  | notADirectory
  | isADirectory
  | other
  deriving DecidableEq

/-- A refusal of the operating system together with its number and wording. -/
structure SystemError where
  fault : SystemFault
  number : Nat
  wording : String

namespace SystemError

def notFound : SystemError := ⟨.notFound, 2, "No such file or directory"⟩
def inputOutput : SystemError := ⟨.other, 5, "Input/output error"⟩
def permission : SystemError := ⟨.permission, 13, "Permission denied"⟩
def alreadyExists : SystemError := ⟨.alreadyExists, 17, "File exists"⟩
def notADirectory : SystemError := ⟨.notADirectory, 20, "Not a directory"⟩
def isADirectory : SystemError := ⟨.isADirectory, 21, "Is a directory"⟩
def nameTooLong : SystemError := ⟨.other, 36, "File name too long"⟩

/-- The message without a path. -/
def plain (e : SystemError) : Text := "[Errno " ++ Text.ofNat e.number ++ "] " ++ e.wording

/-- The message about a path. -/
def about (e : SystemError) (path : Text) : Text := e.plain ++ ": " ++ path.quoted

end SystemError

/-- A problem of a document: the message and, when known, where it is. -/
structure Finding where
  message : Text
  line : Option Int
  column : Option Int
  deriving DecidableEq

/-- The finding with its place behind the message. A column without a line is not shown. -/
def Finding.text (f : Finding) : Text :=
  match f.line with
  | none => f.message
  | some line =>
    let column : Text := match f.column with
      | none => ""
      | some column => ", column " ++ Text.ofInt column
    f.message ++ " (line " ++ Text.ofInt line ++ column ++ ")"

/-- A document that cannot be read: the message, the document and the line. -/
structure Rejection where
  message : Text
  systemId : Option Text
  line : Option Int
  deriving DecidableEq

/-- The rejection with its place in front of the message. -/
def Rejection.text (r : Rejection) : Text :=
  let place : Text := r.systemId.getD "" ++ match r.line with
    | none => ""
    | some line => ":" ++ Text.ofInt line
  if place.isEmpty then r.message else (place ++ " " ++ r.message).trim

/-- The usual wording when the table at a location cannot be loaded. -/
def mappingMessage (location : Text) : Text :=
  "Unable to load schema mappings from location [" ++ location ++ "]"

/-- The causes of failure. -/
inductive Failure where
  /-- The operating system refused. -/
  | system (fault : SystemFault) (message : Text)
  /-- A value that names no mode. -/
  | unknownMode (value : Value)
  /-- A number that no mode has. -/
  | notAMode (n : Int)
  /-- A log level that is a word but not a level. -/
  | unknownLevel (level : Text)
  /-- An input source without a byte stream. -/
  | noStream (systemId : Option Text)
  /-- A stream that is already closed. -/
  | closedStream
  /-- A path with a NUL in it. -/
  | nullByte
  /-- An encoding name with a NUL in it. -/
  | nullCharacter
  /-- A mapping table without a location. -/
  | blankLocation
  /-- A settings file whose name ends in no known suffix. -/
  | unsupportedFormat (suffix : Text)
  /-- An element cannot bear this name. -/
  | invalidTag (name : Text)
  /-- A resource loader refused a table as badly formed. -/
  | badTable (message : Text)
  /-- A number with more digits than are read. -/
  | longNumber (message : Text)
  /-- Values that are nested too deep. -/
  | tooDeep (message : Text)
  /-- A date or time that the calendar does not have. -/
  | noSuchDate (message : Text)
  /-- An escape beyond the last code point. -/
  | badCodePoint
  /-- A qualified name whose namespace is not closed. -/
  | unclosedNamespace
  /-- Settings in YAML without a YAML reader. -/
  | yamlMissing
  | unknownEncoding (name : Text)
  /-- An encoding that does not turn bytes into text. -/
  | notTextEncoding (name : Text)
  /-- Settings that are not JSON. -/
  | json (message : Text)
  /-- Settings that are not YAML. -/
  | yaml
  /-- Bytes that do not decode. -/
  | undecodable
  /-- Text that cannot be encoded, or bytes that an encoding refuses, malformed or not. -/
  | unencodable
  | refusedBytes
  /-- A value of a wrong type, or without a required operation. -/
  | wrongType
  | noAttribute
  /-- An XML document that is not well formed, where nobody turned it into a rejection. -/
  | malformed
  /-- A document that cannot be read. -/
  | document (rejection : Rejection)
  /-- A document that is not valid, refused by a strict handler. -/
  | invalid (finding : Finding)
  /-- The mapping table cannot be loaded. -/
  | mapping (location : Text) (cause : Failure)

namespace Failure

/-- A refusal of the operating system that names a path. -/
def ofSystem (e : SystemError) (path : Text) : Failure := .system e.fault (e.about path)

/-- Did the operating system refuse? -/
def isSystem : Failure → Bool
  | .system .. => true
  | _ => false

/-- Is it a failure of this library's own pipeline? -/
def isPipeline : Failure → Bool
  | .document _ | .invalid _ | .mapping .. => true
  | _ => false

/-- Is it that a file or resource does not exist? -/
def isNotFound : Failure → Bool
  | .system .notFound _ => true
  | _ => false

/-- The wording of a failure. -/
def message? : Failure → Option Text
  | .system _ message => some message
  | .unknownMode v => some ("Unknown validation mode: " ++ v.shown)
  | .notAMode n => some (Text.ofInt n ++ " is not a valid ValidationMode")
  | .unknownLevel level => some ("Unknown level: " ++ level.quoted)
  | .noStream systemId =>
    some ("Input source has no byte stream: " ++ systemId.getD ("None" : Text))
  | .closedStream => some "I/O operation on closed file."
  | .nullByte => some "embedded null byte"
  | .nullCharacter => some "embedded null character"
  | .blankLocation => some "'schema_mappings_location' must not be empty"
  | .unsupportedFormat suffix => some ("Unsupported config format: " ++ suffix)
  | .invalidTag name => some ("Invalid tag name " ++ name.quoted)
  | .badTable message => some message
  | .longNumber message => some message
  | .tooDeep message => some message
  | .noSuchDate message => some message
  | .badCodePoint => some "chr() arg not in range(0x110000)"
  | .unclosedNamespace => some "list index out of range"
  | .yamlMissing => some "PyYAML is required for YAML config files"
  | .unknownEncoding name => some ("unknown encoding: " ++ name)
  | .notTextEncoding name =>
    some (name.quoted
      ++ " is not a text encoding; use codecs.open() to handle arbitrary codecs")
  | .json message => some message
  | .document r => some r.text
  | .invalid f => some f.text
  | .mapping location _ => some (mappingMessage location)
  | .yaml | .undecodable | .unencodable | .refusedBytes | .wrongType | .noAttribute
  | .malformed => none

end Failure

end SchemaGate
