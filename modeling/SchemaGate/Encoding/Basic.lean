import SchemaGate.Encoding.Names
import SchemaGate.Encoding.CodePages
import SchemaGate.Failure

/-!
Text encodings and their names. A name is looked up after folding: small letters, and an underscore
for every run of other characters between two letters, digits or points. Encodings that read byte by
byte are told by what their bytes mean; the others are told by their standard names only.
-/

namespace SchemaGate

/-- The order of the bytes of a number. -/
inductive Endian where
  | little
  | big
  deriving DecidableEq

/-- An encoding that is read byte by byte. Without a given byte order, a byte order mark has to tell
it. -/
inductive Encoding where
  | utf8
  /-- UTF-8 of which a byte order mark at the start is dropped. -/
  | utf8Marked
  | ascii
  | latin1
  /-- A single-byte encoding by its characters; `\ufffe` stands for none. -/
  | page (characters : List Char)
  | utf16 (order : Option Endian)
  | utf32 (order : Option Endian)
  /-- The encoding that refuses to decode anything. -/
  | undefined

/-- A text encoding: one that is read byte by byte, or one whose decoder is brought along, by its
standard name. -/
inductive TextEncoding where
  | known (encoding : Encoding)
  | foreign (name : String)

namespace Encoding

/-- An encoding name with its parts joined by single underscores, in small letters. -/
def foldName (name : Text) : String :=
  let step := fun (r : List Char × Bool) (c : CodePoint) =>
    match c with
    | .char c =>
      if c.isAlphanum || c = '.' then
        let gap := if r.2 && !r.1.isEmpty then ['_'] else []
        (c.toLower :: (gap ++ r.1), false)
      else (r.1, true)
    | .surrogate _ => (r.1, true)
  String.ofList (name.foldl step ([], false)).1.reverse

/-- The standard name of the encoding that has a folded name for another name. -/
def otherName? (folded : String) : Option String :=
  (knownNames.find? fun entry => entry.2.contains folded).map (·.1)

/-- A folded name with its points made underscores. -/
def withoutPoints (folded : String) : String :=
  String.ofList (folded.toList.map fun c => if c = '.' then '_' else c)

/-- The standard name behind a folded name. A point may stand for an underscore in the other names of
an encoding, but not in the standard one. -/
def standardName? (folded : String) : Option String :=
  (otherName? folded).or ((otherName? (withoutPoints folded)).or
    ((knownNames.find? fun entry => entry.1 = folded).map (·.1)))

/-- The characters of a code page. -/
def pageCharacters? (name : String) : Option (List Char) :=
  match asciiPages.find? fun p => p.1 = name with
  | some p => some ((List.range 128).map Char.ofNat ++ p.2.flatMap String.toList)
  | none => (fullPages.find? fun p => p.1 = name).map fun p => p.2.flatMap String.toList

/-- The encoding of a standard name, if it is a text encoding. The other names are those of codecs
that turn bytes into bytes or text into text. -/
def ofStandardName? : String → Option TextEncoding
  | "utf_8" => some (.known .utf8)
  | "utf_8_sig" => some (.known .utf8Marked)
  | "ascii" => some (.known .ascii)
  | "utf_16" => some (.known (.utf16 none))
  | "utf_16_le" => some (.known (.utf16 (some .little)))
  | "utf_16_be" => some (.known (.utf16 (some .big)))
  | "utf_32" => some (.known (.utf32 none))
  | "utf_32_le" => some (.known (.utf32 (some .little)))
  | "utf_32_be" => some (.known (.utf32 (some .big)))
  | "undefined" => some (.known .undefined)
  | name =>
    if byteWise.contains name then some (.known .latin1)
    else if foreignNames.contains name then some (.foreign name)
    else (pageCharacters? name).map fun characters => .known (.page characters)

/-- The standard name of an encoding, or why there is none. -/
def lookup (name : Text) : Except Failure String :=
  if name.contains (.char '\x00') then .error .nullCharacter
  else if name.any fun c => c.char?.isNone then .error .unencodable
  else
    match standardName? (foldName name) with
    | some standard => .ok standard
    | none => .error (.unknownEncoding name)

/-- The text encoding of a name, or why there is none. -/
def find (name : Text) : Except Failure TextEncoding := do
  let standard ← lookup name
  match ofStandardName? standard with
  | some encoding => return encoding
  | none => throw (.notTextEncoding name)

end Encoding

end SchemaGate
