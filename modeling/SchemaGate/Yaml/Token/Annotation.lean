import SchemaGate.Yaml.Token.Basic
import SchemaGate.Encoding.Decoder

/-!
Directives, anchors and tags. A directive takes a line of its own; an anchor names the value behind it;
a tag tells its type, by an address that may be shortened with a handle.
-/

namespace SchemaGate.Yaml.Scan

/-- The rest of a directive's line must be blank or a comment. -/
def ignoredLine : Scan Unit := do
  skipSpaces
  skipComment
  if isLineEnd (← peek) then
    let _ ← lineBreak
  else fail

/-- A number of a version. -/
def versionNumber : Scan Nat := do
  let digits ← takeWhile isDigit
  if digits.isEmpty then fail else return Json.digitsValue digits

/-- The bytes that percent escapes spell. -/
def percentBytes : Nat → Scan Bytes
  | 0 => return []
  | fuel + 1 => do
    match ← rest with
    | .char '%' :: a :: b :: _ =>
      match a.hexDigit?, b.hexDigit? with
      | some a, some b =>
        forward 3
        return (a * 16 + b).toUInt8 :: (← percentBytes fuel)
      | _, _ => fail
    | .char '%' :: _ => fail
    | _ => return []

/-- The characters of an address. -/
def addressText : Nat → Scan Text
  | 0 => return []
  | fuel + 1 => do
    let part ← takeWhile isAddress
    if ← at? '%' then
      match Text.ofBytes? (← percentBytes fuel) with
      | some t => return part ++ t ++ (← addressText fuel)
      | none => fail
    else return part

/-- An address with at least one character. -/
def address : Scan Text := do
  let t ← addressText (← rest).length
  if t.isEmpty then fail else return t

/-- A tag handle: `!`, or a word between two of them. -/
def tagHandle : Scan Text := do
  if !(← at? '!') then fail
  match ← rest with
  | _ :: .char ' ' :: _ =>
    forward 1
    return "!"
  | _ =>
    forward 1
    let word ← takeWhile isWord
    if ← at? '!' then
      forward 1
      return "!" ++ word ++ "!"
    else fail

/-- A directive, from behind its percent sign. -/
def directive : Scan Token := do
  let name ← takeWhile isWord
  if name.isEmpty || !isSpaceOrEnd (← peek) then fail
  if name = ("YAML" : Text) then
    skipSpaces
    let major ← versionNumber
    if !(← at? '.') then fail
    forward 1
    let _ ← versionNumber
    if !isSpaceOrEnd (← peek) then fail
    ignoredLine
    return .directiveYaml major
  else if name = ("TAG" : Text) then
    skipSpaces
    let handle ← tagHandle
    if !(← at? ' ') then fail
    skipSpaces
    let start ← address
    if !isSpaceOrEnd (← peek) then fail
    ignoredLine
    return .directiveTag handle start
  else
    let _ ← takeWhile (!isBreak ·)
    ignoredLine
    return .directiveOther

/-- The name of an anchor or alias, from behind its mark. -/
def anchorName : Scan Text := do
  let name ← takeWhile isWord
  let next ← peek
  let isEnd := isBlankOrEnd next
    || next.any fun c => c.char?.any fun c => "?:,]\x7d%@\x60".toList.contains c
  if name.isEmpty || !isEnd then fail else return name

/-- A tag, from its exclamation mark on. -/
def tagToken : Scan Token := do
  let t ← rest
  let token ← match t with
    | _ :: .char '<' :: _ => do
      forward 2
      let suffix ← address
      if !(← at? '>') then fail
      forward 1
      pure (Token.tag none suffix)
    | _ :: more =>
      if isBlankOrEnd more.head? then do
        forward 1
        pure (Token.tag none "!")
      else do
        let word := more.takeWhile fun c => !isSpaceOrEnd (some c)
        let handle ← if word.contains (.char '!') then tagHandle else do
          forward 1
          pure "!"
        let suffix ← address
        pure (Token.tag (some handle) suffix)
    | [] => fail
  if isSpaceOrEnd (← peek) then return token else fail

end SchemaGate.Yaml.Scan
