import SchemaGate.Encoding.Basic
import SchemaGate.Text.Lines

/-!
Decoding bytes as they arrive. A decoder keeps the bytes of the character that is not complete yet;
a byte extends them, completes a character or is refused. So the text decoded from two pieces is the
text decoded from the two put together, wherever the cut falls. A byte order mark is read by the
encodings that look for one; where it is missing but needed, the piece is refused only after it has
been decoded as if it were little-endian.
-/

namespace SchemaGate

/-- A string of bytes. -/
abbrev Bytes := List UInt8

/-- Why bytes do not become text. -/
inductive DecodeFault where
  /-- The bytes are no text in this encoding, or end inside a character. -/
  | malformed
  /-- The encoding does not take the bytes: there is no byte order mark, or it decodes nothing, or it has
  reasons of its own. -/
  | refused
  deriving DecidableEq

/-- What a byte does to the bytes before it. -/
inductive ByteStep where
  | extends
  | completes (c : Char)
  | fails

/-- A decoder between two bytes. -/
structure Decoder where
  encoding : Encoding
  /-- The bytes of the character that is not complete. -/
  pending : Bytes
  /-- Has no character been completed yet? -/
  atStart : Bool
  /-- Has text been read without the byte order mark it needs? -/
  unmarked : Bool

namespace Decoder

/-- A decoder that has read nothing. -/
def start (encoding : Encoding) : Decoder := ⟨encoding, [], true, false⟩

/-- The character with a number; a number that no character has is refused. -/
def completed (n : Nat) : ByteStep :=
  if h : n.isValidChar then .completes (Char.ofNatAux n h) else .fails

/-- The bits that a continuation byte carries. -/
def tailBits (b : UInt8) : Nat := b.toNat - 0x80

def isTail (b : UInt8) : Bool := 0x80 ≤ b && b ≤ 0xBF

/-- May `b` be the second byte of a character that starts with `a`? -/
def isSecond (a b : UInt8) : Bool :=
  if a = 0xE0 then 0xA0 ≤ b && b ≤ 0xBF
  else if a = 0xED then 0x80 ≤ b && b ≤ 0x9F
  else if a = 0xF0 then 0x90 ≤ b && b ≤ 0xBF
  else if a = 0xF4 then 0x80 ≤ b && b ≤ 0x8F
  else isTail b

/-- UTF-8: the first byte tells the length, and the second is narrowed where a shorter form, a
surrogate or a number out of range would be spelled. -/
def utf8Step (pending : Bytes) (b : UInt8) : ByteStep :=
  match pending with
  | [] =>
    if b < 0x80 then completed b.toNat
    else if 0xC2 ≤ b && b ≤ 0xF4 then .extends
    else .fails
  | [a] =>
    if !isSecond a b then .fails
    else if a < 0xE0 then completed ((a.toNat - 0xC0) * 0x40 + tailBits b)
    else .extends
  | [a, a₂] =>
    if !isTail b then .fails
    else if a < 0xF0 then
      completed (((a.toNat - 0xE0) * 0x40 + tailBits a₂) * 0x40 + tailBits b)
    else .extends
  | a :: a₂ :: a₃ :: _ =>
    if !isTail b then .fails
    else completed
      ((((a.toNat - 0xF0) * 0x40 + tailBits a₂) * 0x40 + tailBits a₃) * 0x40 + tailBits b)

/-- The number that bytes spell in an order. -/
def number (order : Endian) (bytes : Bytes) : Nat :=
  match order with
  | .big => bytes.foldl (fun n b => n * 0x100 + b.toNat) 0
  | .little => bytes.foldr (fun b n => n * 0x100 + b.toNat) 0

/-- UTF-16: a unit of two bytes, or a high and a low surrogate. -/
def utf16Step (order : Endian) (pending : Bytes) (b : UInt8) : ByteStep :=
  let bytes := pending ++ [b]
  let unit := number order (bytes.take 2)
  match bytes.length with
  | 2 =>
    if 0xD800 ≤ unit && unit < 0xDC00 then .extends else completed unit
  | 4 =>
    let low := number order (bytes.drop 2)
    if 0xDC00 ≤ low && low < 0xE000 then
      completed (0x10000 + (unit - 0xD800) * 0x400 + (low - 0xDC00))
    else .fails
  | _ => .extends

/-- UTF-32: four bytes. -/
def utf32Step (order : Endian) (pending : Bytes) (b : UInt8) : ByteStep :=
  if pending.length = 3 then completed (number order (pending ++ [b])) else .extends

/-- What a byte does in an encoding; an unknown byte order is read as little-endian. -/
def byteStep : Encoding → Bytes → UInt8 → ByteStep
  | .utf8, pending, b | .utf8Marked, pending, b => utf8Step pending b
  | .ascii, _, b => if b < 0x80 then completed b.toNat else .fails
  | .latin1, _, b => completed b.toNat
  | .page characters, _, b =>
    match characters[b.toNat]? with
    | some c => if c = '\ufffe' then .fails else .completes c
    | none => .fails
  | .utf16 order, pending, b => utf16Step (order.getD .little) pending b
  | .utf32 order, pending, b => utf32Step (order.getD .little) pending b
  | .undefined, _, _ => .fails

/-- The encoding to go on with when the first bytes of a document are a byte order mark it looks
for. -/
def mark? : Encoding → Bytes → Option Encoding
  | .utf8Marked, [0xEF, 0xBB, 0xBF] => some .utf8Marked
  | .utf16 none, [0xFF, 0xFE] => some (.utf16 (some .little))
  | .utf16 none, [0xFE, 0xFF] => some (.utf16 (some .big))
  | .utf32 none, [0xFF, 0xFE, 0, 0] => some (.utf32 (some .little))
  | .utf32 none, [0, 0, 0xFE, 0xFF] => some (.utf32 (some .big))
  | _, _ => none

/-- Is text in this encoding unreadable without a byte order mark? -/
def needsMark : Encoding → Bool
  | .utf16 none | .utf32 none => true
  | _ => false

/-- The fault of bytes that an encoding refuses. -/
def fault : Encoding → DecodeFault
  | .undefined => .refused
  | _ => .malformed

/-- Reads one byte. -/
def readByte (d : Decoder) (b : UInt8) : Except DecodeFault (Decoder × List Char) :=
  match (if d.atStart then mark? d.encoding (d.pending ++ [b]) else none) with
  | some encoding => .ok (⟨encoding, [], false, false⟩, [])
  | none =>
    match byteStep d.encoding d.pending b with
    | .extends => .ok ({ d with pending := d.pending ++ [b] }, [])
    | .completes c => .ok (⟨d.encoding, [], false, needsMark d.encoding⟩, [c])
    | .fails => .error (fault d.encoding)

/-- Reads bytes one after another. -/
def readBytes : Decoder → Bytes → Except DecodeFault (Decoder × List Char)
  | d, [] => .ok (d, [])
  | d, b :: bs =>
    match d.readByte b with
    | .error e => .error e
    | .ok (d', text) =>
      match readBytes d' bs with
      | .error e => .error e
      | .ok (d'', rest) => .ok (d'', text ++ rest)

/-- Reads a piece. A missing byte order mark is noticed once the piece is decoded. -/
def readPiece (d : Decoder) (piece : Bytes) : Except DecodeFault (Decoder × List Char) :=
  match d.readBytes piece with
  | .error e => .error e
  | .ok (d', text) => if d'.unmarked then .error .refused else .ok (d', text)

/-- The end of the bytes. It may not fall inside a character; only the start of a byte order mark
that would have been dropped is let pass. -/
def finish (d : Decoder) : Except DecodeFault Unit :=
  match d.encoding with
  | .undefined => .error .refused
  | .utf8Marked =>
    if d.pending.isEmpty || (d.atStart && (d.pending = [0xEF] || d.pending = [0xEF, 0xBB])) then
      .ok ()
    else .error .malformed
  | _ => if d.pending.isEmpty then .ok () else .error .malformed

end Decoder

namespace Encoding

/-- Decodes all bytes at once. -/
def decodeAll (encoding : Encoding) (bytes : Bytes) : Except DecodeFault (List Char) :=
  match (Decoder.start encoding).readBytes bytes with
  | .error e => .error e
  | .ok (d, text) =>
    match d.finish with
    | .error e => .error e
    | .ok () => if d.unmarked then .error .refused else .ok text

end Encoding

namespace Text

/-- The bytes of a text in UTF-8, if it holds characters only. -/
def toBytes? (t : Text) : Option Bytes :=
  (t.mapM CodePoint.char?).map fun cs => cs.flatMap String.utf8EncodeChar

/-- The text that bytes spell in UTF-8. -/
def ofBytes? (bytes : Bytes) : Option Text :=
  match Encoding.utf8.decodeAll bytes with
  | .ok cs => some (cs.map .char)
  | .error _ => none

end Text

end SchemaGate
