import SchemaGate.Encoding.Decoder

/-!
Decoding bytes that come in pieces. A piece is decoded as a whole, behind the pieces before it, and so
is the end, which may complete a text that was held back. Decoders that read byte by byte do this, and
so do codecs: those are brought along, and nothing is known of them but what they answer.
-/

namespace SchemaGate

/-- Decoders that are given bytes in pieces. A piece is not empty. -/
class PieceDecoder (δ : Type) where
  readPiece : δ → Bytes → Except DecodeFault (δ × Text)
  readEnd : δ → Except DecodeFault (δ × Text)

instance : PieceDecoder Decoder where
  readPiece d piece := (d.readPiece piece).map fun (d, cs) => (d, cs.map .char)
  readEnd d := d.finish.map fun _ => (d, [])

/-- A decoder that is brought along, told by its answers. -/
structure Codec where
  /-- The text of a piece behind the pieces before it. No bytes are an end. -/
  decodePiece : List Bytes → Bytes → Except DecodeFault Text
  /-- The text of bytes that are decoded at once. -/
  decodeAll : Bytes → Except DecodeFault Text
  /-- An end leaves nothing behind, so nothing more has to be read after it. -/
  decodePiece_end : ∀ before text, decodePiece before [] = .ok text →
    decodePiece (before ++ [[]]) [] = .ok []

/-- The codecs of the encodings that have no decoder of their own, by standard names. -/
abbrev Codecs := String → Codec

/-- A codec at work: what it was given so far. -/
structure CodecRun where
  codec : Codec
  given : List Bytes

/-- A codec that was given nothing. -/
def Codec.start (codec : Codec) : CodecRun := ⟨codec, []⟩

namespace CodecRun

/-- Gives bytes to a codec. -/
def give (c : CodecRun) (bytes : Bytes) : Except DecodeFault (CodecRun × Text) :=
  (c.codec.decodePiece c.given bytes).map fun text =>
    ({ c with given := c.given ++ [bytes] }, text)

instance : PieceDecoder CodecRun where
  readPiece := give
  readEnd c := c.give []

end CodecRun

/-- Decodes all bytes at once. -/
def TextEncoding.decodeAll (codecs : Codecs) (bytes : Bytes) : TextEncoding → Except DecodeFault Text
  | .known encoding => (encoding.decodeAll bytes).map fun cs => cs.map .char
  | .foreign name => (codecs name).decodeAll bytes

namespace Codec

/-- The codec that reads as much of an encoding as it shares with one that is read byte by byte, and takes
everything else for malformed. -/
def sharing (encoding : Encoding) : Codec where
  decodePiece _ piece :=
    if piece.isEmpty then .ok []
    else (encoding.decodeAll piece).map fun cs => cs.map .char
  decodeAll bytes := (encoding.decodeAll bytes).map fun cs => cs.map .char
  decodePiece_end _ _ _ := rfl

end Codec

/-- Codecs that read what their encodings share with ASCII, or with Latin-1 where these are the same but
for escapes. -/
def Codecs.plain : Codecs := fun name =>
  if ["raw_unicode_escape", "unicode_escape"].contains name then .sharing .latin1 else .sharing .ascii

end SchemaGate
