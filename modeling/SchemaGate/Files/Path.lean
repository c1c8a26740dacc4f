import SchemaGate.Encoding.Decoder

/-!
Paths. A path is a root and the names behind it; empty names and single points are left out when it
is read, so that every path has one written form. It becomes a `file:` address with all bytes but
letters, digits and a few marks written as percent escapes.
-/

namespace SchemaGate

/-- The slashes that a path starts with, none for a relative one, and its names. -/
structure Path where
  root : Text
  names : List Text
  deriving DecidableEq

namespace Path

/-- The pieces between the slashes of a text; always at least one. -/
def splitSlashes : Text → List Text
  | [] => [[]]
  | c :: rest =>
    if c = .char '/' then [] :: splitSlashes rest
    else
      match splitSlashes rest with
      | piece :: pieces => (c :: piece) :: pieces
      | [] => [[c]]

/-- The names between the slashes of a text. -/
def namesOf (t : Text) : List Text :=
  (splitSlashes t).filter fun name => name ≠ [] ∧ name ≠ [.char '.']

/-- Reads a path. Two slashes in front are kept, any other number is one. -/
def ofText (t : Text) : Path :=
  let slashes := t.takeWhile (· = .char '/')
  ⟨if slashes.length = 2 then slashes else slashes.take 1, namesOf t⟩

/-- Writes a path; without any name it is the current directory. -/
def text (p : Path) : Text :=
  if p.root.isEmpty && p.names.isEmpty then "." else p.root ++ Text.join "/" p.names

/-- The path seen from another one; an absolute path stands for itself. -/
def join (base p : Path) : Path := if p.root.isEmpty then ⟨base.root, base.names ++ p.names⟩ else p

/-- The last name, empty if there is none. -/
def name (p : Path) : Text := p.names.getLast?.getD []

/-- The path without its last name. -/
def parent (p : Path) : Path := ⟨p.root, p.names.dropLast⟩

/-- The end of the name from its last point on. A point at either end of the name does not count. -/
def suffix (p : Path) : Text :=
  let behind := p.name.reverse.takeWhile (· ≠ .char '.')
  let before := (p.name.reverse.dropWhile (· ≠ .char '.')).drop 1
  if behind.isEmpty || before.isEmpty then [] else .char '.' :: behind.reverse

/-- The names with every `..` taken back, from the root of the file system. -/
def climb (names : List Text) : List Text :=
  names.foldl
    (fun done name => if name = [.char '.', .char '.'] then done.dropLast else done ++ [name]) []

/-- May the byte stand in an address as it is? -/
def isPlain (b : UInt8) : Bool :=
  let c := Char.ofNat b.toNat
  b < 0x80 && (c.isAlphanum || c = '_' || c = '.' || c = '-' || c = '~' || c = '/')

/-- A byte in an address. -/
def escapeByte (b : UInt8) : Text :=
  if isPlain b then [.char (Char.ofNat b.toNat)]
  else .char '%' :: (Text.hexDigits 2 b.toNat).map fun
    | .char c => .char c.toUpper
    | c => c

/-- The address of an absolute path. -/
def address (absolute : Text) : Text :=
  "file://" ++ ((Text.toBytes? absolute).getD []).flatMap escapeByte

end Path

end SchemaGate
