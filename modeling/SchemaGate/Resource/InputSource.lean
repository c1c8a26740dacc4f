import SchemaGate.Run

/-!
Input sources: a byte stream together with the public and the system identifier it was resolved
from. The stream is read as a whole, and reading closes it.
-/

namespace SchemaGate

/-- What a stream delivers: bytes at hand, or a file that is open. -/
inductive StreamContent where
  | bytes (b : Bytes)
  | file (number : Nat)

/-- A stream and whether it is closed. -/
structure ByteStream where
  content : StreamContent
  closed : Bool

/-- A stream with its identifiers. -/
structure InputSource where
  stream : Option ByteStream
  publicId : Option Text
  systemId : Option Text

namespace InputSource

/-- A source over bytes. -/
def ofBytes (bytes : Bytes) (publicId systemId : Option Text) : InputSource :=
  ⟨some ⟨.bytes bytes, false⟩, publicId, systemId⟩

/-- A source over a file, known by its address. -/
def ofPath (fs : FileSystem) (path : Text) : Except Failure InputSource := do
  let p := Path.ofText path
  let number ← fs.openFile p.text
  return ⟨some ⟨.file number, false⟩, none, some (Path.address (fs.absolute p))⟩

/-- The source with its stream closed. -/
def close (s : InputSource) : InputSource :=
  { s with stream := s.stream.map fun b => { b with closed := true } }

/-- Reads the whole stream: the bytes, and the source that is left. Its stream is closed whatever
happened. -/
def read (fs : FileSystem) (s : InputSource) : Except Failure Bytes × InputSource :=
  match s.stream with
  | none => (.error (.noStream s.systemId), s)
  | some stream =>
    if stream.closed then (.error .closedStream, s)
    else match stream.content with
      | .bytes b => (.ok b, s.close)
      | .file number => (.ok (fs.content number), s.close)

/-- Takes the bytes of a source, which is not used again. -/
def take {σ : Type} (s : InputSource) : Run σ Bytes := Run.askFiles fun fs => (s.read fs).1

end InputSource

end SchemaGate
