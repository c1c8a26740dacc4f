import SchemaGate.Text.CodePoint

/-!
Addresses of documents: a scheme, an authority, a path, a query and a fragment. A reference may leave
out what it shares with the address of the document it stands in, and is resolved against that one.
-/

namespace SchemaGate

/-- The parts of an address or of a reference to one. -/
structure Address where
  scheme : Option (List Char)
  authority : Option (List Char)
  path : List Char
  query : Option (List Char)
  fragment : Option (List Char)

namespace Address

/-- A hexadecimal digit in ASCII. -/
def isHexDigit (c : Char) : Bool :=
  c.isDigit || ('a' ≤ c && c ≤ 'f') || ('A' ≤ c && c ≤ 'F')

/-- May the character stand in a segment of a path as it is? -/
def isSegmentCharacter (c : Char) : Bool :=
  c.isAlphanum || "-._~!$&'()*+,;=:@".toList.contains c

/-- Are all characters in a class, apart from well-formed percent escapes? -/
def allIn (p : Char → Bool) : List Char → Bool
  | [] => true
  | '%' :: a :: b :: rest => isHexDigit a && isHexDigit b && allIn p rest
  | c :: rest => p c && allIn p rest

/-- The scheme of an address and what follows the colon behind it. -/
def splitScheme? (cs : List Char) : Option (List Char × List Char) :=
  let name := cs.takeWhile fun c => c.isAlphanum || c = '+' || c = '-' || c = '.'
  match name, cs.drop name.length with
  | c :: _, ':' :: rest => if c.isAlpha then some (name, rest) else none
  | _, _ => none

/-- The part before a mark, and the part behind it if there is the mark. -/
def splitAt (mark : Char) (cs : List Char) : List Char × Option (List Char) :=
  match cs.dropWhile (· ≠ mark) with
  | _ :: rest => (cs.takeWhile (· ≠ mark), some rest)
  | [] => (cs, none)

/-- The authority and the path of what follows a scheme. -/
def splitAuthority : List Char → Option (List Char) × List Char
  | '/' :: '/' :: rest => (some (rest.takeWhile (· ≠ '/')), rest.dropWhile (· ≠ '/'))
  | cs => (none, cs)

/-- The parts behind a scheme. -/
def ofRest (scheme : Option (List Char)) (cs : List Char) : Address :=
  let (cs, fragment) := splitAt '#' cs
  let (cs, query) := splitAt '?' cs
  let (authority, path) := splitAuthority cs
  ⟨scheme, authority, path, query, fragment⟩

/-- Are all parts spelled with the characters that may stand in them? -/
def isWellSpelled (a : Address) : Bool :=
  let inTail := fun c => isSegmentCharacter c || c = '/' || c = '?'
  let inAuthority := fun c => isSegmentCharacter c || c = '[' || c = ']'
  allIn inAuthority (a.authority.getD []) && allIn (fun c => isSegmentCharacter c || c = '/') a.path
    && allIn inTail (a.query.getD [])
    && allIn (fun c => inTail c || c = '[' || c = ']') (a.fragment.getD [])

/-- The parts of an address or a reference, if it is well spelled. Without a scheme the first segment
of a relative path holds no colon. -/
def ofChars? (cs : List Char) : Option Address :=
  let a := match splitScheme? cs with
    | some (scheme, rest) => ofRest (some scheme) rest
    | none => ofRest none cs
  let firstSegment := a.path.takeWhile (· ≠ '/')
  if a.scheme.isNone && a.authority.isNone && firstSegment.contains ':' then none
  else if a.isWellSpelled then some a
  else none

/-- The address as it is written. -/
def toChars (a : Address) : List Char :=
  (match a.scheme with | some s => s ++ [':'] | none => [])
    ++ (match a.authority with | some s => '/' :: '/' :: s | none => [])
    ++ a.path
    ++ (match a.query with | some s => '?' :: s | none => [])
    ++ (match a.fragment with | some s => '#' :: s | none => [])

/-- The segments of a path. -/
def segments (path : List Char) : List (List Char) := path.splitOn '/'

/-- One segment more on a path whose segments stand in reverse: a point goes nowhere, and two points
go back, but never behind the start. -/
def climb (done : List (List Char)) (segment : List Char) : List (List Char) :=
  if segment = ['.'] then done
  else if segment = ['.', '.'] then done.drop 1
  else segment :: done

/-- A path without points that go nowhere or back. Where the path ends in one, it keeps the slash. -/
def withoutDots (path : List Char) : List Char :=
  let isRooted := path.head? = some '/'
  let parts := segments (if isRooted then path.drop 1 else path)
  let ends := parts.getLast? = some ['.'] || parts.getLast? = some ['.', '.']
  let done := (parts.foldl climb []).reverse
  let done := if ends then done ++ [[]] else done
  (if isRooted then ['/'] else []) ++ (done.intersperse ['/']).flatten

/-- A relative path in the place of the last segment of a base. -/
def merged (base : Address) (path : List Char) : List Char :=
  if base.authority.isSome && base.path.isEmpty then '/' :: path
  else
    let upToSlash := (base.path.reverse.dropWhile (· ≠ '/')).reverse
    upToSlash ++ path

/-- The address that a reference stands for in a document with the address `base`. -/
def resolvedIn (base reference : Address) : Address :=
  if reference.scheme.isSome then reference
  else if reference.authority.isSome then { reference with scheme := base.scheme }
  else if reference.path.isEmpty then
    { base with
      query := if reference.query.isSome then reference.query else base.query
      fragment := reference.fragment }
  else
    let path := if reference.path.head? = some '/' then reference.path
      else withoutDots (base.merged reference.path)
    ⟨base.scheme, base.authority, path, reference.query, reference.fragment⟩

/-- The text of the address that a reference stands for in a document. Without a base it stands for
itself, and so it does when it has a scheme. -/
def resolve? (base : Option (List Char)) (reference : List Char) : Option (List Char) :=
  match base with
  | none => some reference
  | some base =>
    match ofChars? reference with
    | none => none
    | some r =>
      if r.scheme.isSome then some reference
      else (ofChars? base).map fun b => (b.resolvedIn r).toChars

/-- The value of a hexadecimal digit. -/
def hexValue (c : Char) : Nat :=
  if c.isDigit then c.toNat - '0'.toNat
  else if 'a' ≤ c then c.toNat - 'a'.toNat + 10
  else c.toNat - 'A'.toNat + 10

/-- The bytes that a path of an address spells. -/
def bytesOf : List Char → List UInt8
  | [] => []
  | '%' :: a :: b :: rest =>
    if isHexDigit a && isHexDigit b then (hexValue a * 16 + hexValue b).toUInt8 :: bytesOf rest
    else '%'.val.toUInt8 :: bytesOf (a :: b :: rest)
  | c :: rest => (String.singleton c).toUTF8.toList ++ bytesOf rest
termination_by cs => cs.length

/-- The bytes of the path in the file system that an address stands for: that of a `file:` address,
or the address itself if it has no scheme. -/
def filePath? (address : List Char) : Option (List UInt8) :=
  match splitScheme? address with
  | none => some (bytesOf address)
  | some (scheme, rest) =>
    if scheme = "file".toList then
      match splitAuthority rest with
      | (some host, path) =>
        if host.isEmpty || host = "localhost".toList then some (bytesOf path) else none
      | (none, path) => some (bytesOf path)
    else none

end Address

end SchemaGate
