import SchemaGate.Detection.Scan
import SchemaGate.Encoding.Codec
import SchemaGate.Log

/-!
Detection on streams. A binary stream delivers pieces; each is decoded as a whole when the next line
needs it, and a line is read once its end, or the end of the stream, has been decoded. So a bad byte
or a failing read matters only if its piece is reached. Bytes that do not decode leave the mode to
the caller; whatever happens, the stream is closed afterwards.
-/

namespace SchemaGate.Detection

/-- What follows the last piece of a binary stream. -/
inductive StreamEnd where
  | endOfFile
  | failure (message : Text)

/-- A stream to be read: decoded text, or bytes in pieces. An empty piece is an end of the stream
that more pieces may follow. -/
inductive Stream where
  | decoded (text : Text)
  | binary (pieces : List Bytes) (ending : StreamEnd)

/-- The most bytes that are read at once. -/
def pieceSize : Nat := 8192

/-- Bytes in pieces of full size, the last one aside. -/
def cutPieces (bytes : Bytes) : List Bytes :=
  if _h : bytes.length ≤ pieceSize then (if bytes.isEmpty then [] else [bytes])
  else bytes.take pieceSize :: cutPieces (bytes.drop pieceSize)
termination_by bytes.length
decreasing_by
  have : 0 < pieceSize := by decide
  simp only [List.length_drop]
  omega

namespace Stream

/-- The stream over bytes in memory or in a file. -/
def ofBytes (bytes : Bytes) : Stream := .binary (cutPieces bytes) .endOfFile

/-- The stream over reads of any size. -/
def ofChunks (chunks : List Bytes) (ending : StreamEnd) : Stream :=
  .binary (chunks.flatMap fun c => if c.isEmpty then [[]] else cutPieces c) ending

end Stream

/-- The lines that are ended by a newline, and what follows the last newline. -/
def cutLines : Text → List Text × Text
  | [] => ([], [])
  | c :: t =>
    let (lines, rest) := cutLines t
    if c = .char '\n' then ([] :: lines, rest)
    else
      match lines with
      | [] => ([], c :: rest)
      | line :: lines => ((c :: line) :: lines, rest)

/-- A line of a stream without the line ends behind it. -/
def dropLineEnd (line : Text) : Text :=
  Text.dropEnd (fun c => c = .char '\r' || c = .char '\n') line

/-- The state between two pieces. -/
structure Reading (δ : Type) where
  decoder : δ
  /-- Is a carriage return held back, until it is known whether a newline follows? -/
  heldReturn : Bool
  /-- The text of the line that is not ended yet. -/
  unfinished : Text
  scan : Scan

namespace Reading

variable {δ : Type}

/-- Nothing read. -/
def start (decoder : δ) : Reading δ := ⟨decoder, false, [], Scan.start⟩

/-- Reads decoded text and with it every line it completes. -/
def readText (r : Reading δ) (text : Text) : Reading δ :=
  let (lines, rest) := cutLines (r.unfinished ++ text)
  { r with unfinished := rest, scan := r.scan.readLines (lines.map dropLineEnd) }

/-- Text with the held carriage return in front, and whether it ends with one to be held back. -/
def holdReturn (held : Bool) (text : Text) : Text × Bool :=
  match text with
  | [] => ([], held)
  | _ :: _ =>
    let text := if held then .char '\r' :: text else text
    if text.getLast? = some (.char '\r') then (text.dropLast, true) else (text, false)

/-- Reads the line that the end of the stream completes, if there is one. -/
def readUnfinished (r : Reading δ) : Reading δ :=
  if r.unfinished.isEmpty then r
  else { r with unfinished := [], scan := r.scan.readLine (dropLineEnd r.unfinished) }

variable [PieceDecoder δ]

/-- Reads a piece that is not empty. -/
def readPiece (r : Reading δ) (piece : Bytes) : Except DecodeFault (Reading δ) :=
  match PieceDecoder.readPiece r.decoder piece with
  | .error e => .error e
  | .ok (decoder, text) =>
    let (text, held) := holdReturn r.heldReturn text
    .ok ({ r with decoder := decoder, heldReturn := held }.readText text.joinNewlines)

/-- Reads an end of the stream; `none` if nothing was left to read. -/
def readEnd (r : Reading δ) : Except DecodeFault (Option (Reading δ)) :=
  match PieceDecoder.readEnd r.decoder with
  | .error e => .error e
  | .ok (decoder, text) =>
    let r := { r with decoder := decoder }
    if r.heldReturn || !text.isEmpty then
      let text : Text := if r.heldReturn then .char '\r' :: text else text
      .ok (some ({ r with heldReturn := false }.readText text.joinNewlines))
    else if r.unfinished.isEmpty then .ok none
    else .ok (some r.readUnfinished)

end Reading

/-- How reading a stream ends early. -/
inductive Stop where
  | fault (f : DecodeFault)
  | readFailed (message : Text)

/-- Reads pieces until a verdict is reached or nothing is left. -/
def readPieces {δ : Type} [PieceDecoder δ] (r : Reading δ) (ending : StreamEnd) :
    List Bytes → Except Stop Mode
  | [] =>
    match r.scan.verdict, ending with
    | some m, _ => .ok m
    | none, .failure message => .error (.readFailed message)
    | none, .endOfFile =>
      match r.readEnd with
      | .error f => .error (.fault f)
      | .ok none => .ok r.scan.mode
      | .ok (some r) => .ok r.readUnfinished.scan.mode
  | piece :: pieces =>
    match r.scan.verdict with
    | some m => .ok m
    | none =>
      if piece.isEmpty then
        match r.readEnd with
        | .error f => .error (.fault f)
        | .ok none => .ok r.scan.mode
        | .ok (some r) => readPieces r ending pieces
      else
        match r.readPiece piece with
        | .error f => .error (.fault f)
        | .ok r => readPieces r ending pieces

/-- A stream and whether it is closed. -/
structure Source where
  stream : Stream
  closed : Bool

/-- What detection answers, what it logs, and the stream it leaves behind. -/
structure Detected where
  outcome : Except Failure Mode
  records : List Record
  source : Source

/-- The record of a verdict. -/
def verdictRecords : Mode → List Record
  | .dtd => [⟨.debug, .detection, "DOCTYPE declaration found, using DTD validation"⟩]
  | _ => []

/-- The lines of decoded text without their ends; a line ends at a newline only. -/
def documentLines (text : Text) : List Text :=
  let (lines, rest) := cutLines text
  let all := if rest.isEmpty then lines else lines ++ [rest]
  all.map dropLineEnd

/-- The mode of decoded text. -/
def modeOfText (text : Text) : Mode := modeOfLines (documentLines text)

/-- What detection works with: codecs, and the name of the encoding in which bytes are decoded. -/
structure Detector where
  codecs : Codecs
  encoding : Text

/-- A detector for documents in UTF-8. -/
def Detector.utf8 : Detector := ⟨.plain, "utf-8"⟩

/-- What lines are read from: decoded text, or bytes that are decoded piece by piece. -/
inductive LineReader where
  | ofText (text : Text)
  | ofPieces (encoding : TextEncoding) (pieces : List Bytes) (ending : StreamEnd)

/-- Reads pieces in an encoding from the start. -/
def readPiecesIn (codecs : Codecs) (encoding : TextEncoding) (ending : StreamEnd) (pieces : List Bytes) :
    Except Stop Mode :=
  match encoding with
  | .known encoding => readPieces (Reading.start (Decoder.start encoding)) ending pieces
  | .foreign name => readPieces (Reading.start (codecs name).start) ending pieces

/-- Detects the mode from lines. The name of the encoding is only logged. -/
def LineReader.detect (d : Detector) : LineReader → Except Failure Mode × List Record
  | .ofText text =>
    let mode := modeOfText text
    (.ok mode, verdictRecords mode)
  | .ofPieces encoding pieces ending =>
    match readPiecesIn d.codecs encoding ending pieces with
    | .ok mode => (.ok mode, verdictRecords mode)
    | .error (.fault .malformed) =>
      (.ok .auto, [⟨.debug, .detection,
        "Could not decode document as " ++ d.encoding ++ ": <codec>"⟩])
    | .error (.fault .refused) => (.error .refusedBytes, [])
    | .error (.readFailed message) => (.error (.system .other message), [])

namespace Source

/-- The source with its stream closed. -/
def close (s : Source) : Source := { s with closed := true }

/-- Opens a reader of lines over a stream. Bytes need a text encoding and a stream that is not closed
yet; a stream over which no reader can be opened is closed. -/
def lineReader (encodingName : Text) (s : Source) : Except Failure LineReader × Source :=
  match s.stream with
  | .decoded text => (.ok (.ofText text), s)
  | .binary pieces ending =>
    match Encoding.find encodingName with
    | .error f => (.error f, s.close)
    | .ok encoding =>
      if s.closed then (.error .closedStream, s.close)
      else (.ok (.ofPieces encoding pieces ending), s)

/-- What comes of using a stream, which has to be open for that and is closed behind it. -/
def use (s : Source) (result : Except Failure Mode × List Record) : Detected :=
  if s.closed then ⟨.error .closedStream, [], s⟩ else ⟨result.1, result.2, s.close⟩

end Source

/-- Detects the mode of a stream. -/
def detect (d : Detector) (source : Source) : Detected :=
  match source.lineReader d.encoding with
  | (.error f, s) => ⟨.error f, [], s⟩
  | (.ok reader, s) => s.use (reader.detect d)

/-- Detects the mode of bytes in memory. -/
def detectBytes (d : Detector) (bytes : Bytes) : Detected := detect d ⟨.ofBytes bytes, false⟩

end SchemaGate.Detection
