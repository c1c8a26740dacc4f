import SchemaGate.Encoding.Decoder

/-!
The encoding of a document: a byte order mark or the first bytes tell it, or else the document declares
it, or else it is UTF-8. Bytes that are no text end the document with a NUL, which no document may
hold, so that the fault is found where it is.
-/

namespace SchemaGate.Xml

/-- What the first bytes tell: the encoding, whether a declaration may change it, and how many bytes
are a byte order mark. -/
structure FirstBytes where
  encoding : Encoding
  isCertain : Bool
  mark : Nat

/-- What the first bytes tell. -/
def sniff : Bytes → FirstBytes
  | 0xEF :: 0xBB :: 0xBF :: _ => ⟨.utf8, true, 3⟩
  | 0x3C :: 0 :: 0 :: 0 :: _ => ⟨.utf32 (some .little), true, 0⟩
  | 0 :: 0 :: 0 :: 0x3C :: _ => ⟨.utf32 (some .big), true, 0⟩
  | 0x3C :: 0 :: 0x3F :: 0 :: _ => ⟨.utf16 (some .little), true, 0⟩
  | 0 :: 0x3C :: 0 :: 0x3F :: _ => ⟨.utf16 (some .big), true, 0⟩
  | 0xFF :: 0xFE :: _ => ⟨.utf16 (some .little), true, 2⟩
  | 0xFE :: 0xFF :: _ => ⟨.utf16 (some .big), true, 2⟩
  | _ => ⟨.utf8, false, 0⟩

/-- The characters that bytes spell, the latest one first. -/
def decodeFrom (done : List Char) (d : Decoder) : Bytes → List Char
  | [] =>
    match d.finish with
    | .ok () => done
    | .error _ => '\x00' :: done
  | b :: rest =>
    match d.readByte b with
    | .ok (d, cs) => decodeFrom (cs.reverse ++ done) d rest
    | .error _ => '\x00' :: done

/-- The characters that bytes spell, with a NUL in the place of the first fault. -/
def decode (encoding : Encoding) (bytes : Bytes) : List Char :=
  (decodeFrom [] (.start encoding) bytes).reverse

/-- The names of the encodings that need no table. -/
def simpleEncodings : List (String × Encoding) :=
  [("UTF-8", .utf8), ("UTF8", .utf8), ("ISO-8859-1", .latin1), ("ISO-LATIN-1", .latin1),
   ("LATIN1", .latin1), ("ASCII", .ascii), ("US-ASCII", .ascii)]

/-- Encodings with characters of several bytes. Of these only the part that they share with ASCII is
read. -/
def wideEncodings : List String :=
  ["SHIFT_JIS", "SHIFT-JIS", "SJIS", "EUC-JP", "EUC-KR", "EUC-CN", "EUC-TW", "GB2312", "GBK",
   "GB18030", "BIG5", "BIG5-HKSCS", "ISO-2022-JP", "ISO-2022-KR"]

/-- How the names of encodings with a table of 256 characters start. -/
def tableFamilies : List String :=
  ["ISO-8859-", "ISO8859-", "ISO_8859-", "WINDOWS-", "CP", "KOI8-", "IBM", "MAC"]

/-- The encoding that a document declares by a name. -/
def declaredEncoding? (name : List Char) : Option Encoding :=
  let capital := String.ofList (name.map Char.toUpper)
  match simpleEncodings.find? fun e => e.1 = capital with
  | some e => some e.2
  | none =>
    if wideEncodings.contains capital then some .ascii
    else if tableFamilies.any fun f => f.toList.isPrefixOf capital.toList then
      match Encoding.find (name.map .char) with
      | .ok (.known (.page characters)) => some (.page characters)
      | _ => none
    else none

end SchemaGate.Xml
