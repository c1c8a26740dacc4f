import SchemaGate.Yaml.Token.Scalar

/-!
The tokens of a text. The next character tells what token comes next; the tokens for a key are put in
at the place where the key started.
-/

namespace SchemaGate.Yaml

namespace Scan

/-- A list entry, a key or a value mark outside flow brackets needs a place for a key, and may open a
block. -/
def blockMark (opened : Token) : Scan Unit := do
  let s ← get
  if s.flowLevel = 0 then
    if !s.allowKey then fail
    if ← openBlock s.column then emit opened

/-- Puts the tokens of a key in at the place where it started. -/
def insertKey (p : KeyPlace) : Scan Unit := do
  let opens ← if (← get).flowLevel = 0 then openBlock p.column else pure false
  let inserted : List Token := if opens then [.blockMappingStart, .key] else [.key]
  modify fun s =>
    let (before, after) := s.tokens.toList.splitAt p.position
    { s with tokens := (before ++ inserted ++ after).toArray }

/-- The mark of a value. -/
def valueMark : Scan Unit := do
  let s ← get
  match s.places.find? fun p => p.1 = s.flowLevel with
  | some (_, p) =>
    set { s with places := s.places.filter fun p => p.1 ≠ s.flowLevel }
    insertKey p
    allowKey false
  | none =>
    blockMark .blockMappingStart
    allowKey (s.flowLevel = 0)
    dropPlace
  forward 1
  emit .value

/-- A mark that opens or closes flow brackets. -/
def flowMark (token : Token) (opens : Bool) : Scan Unit := do
  if opens then
    savePlace
    modify fun s => { s with flowLevel := s.flowLevel + 1 }
  else
    dropPlace
    if (← get).flowLevel = 0 then fail
    modify fun s => { s with flowLevel := s.flowLevel - 1 }
  allowKey opens
  forward 1
  emit token

/-- A token that may be a key. -/
def keyLike (read : Scan Token) : Scan Unit := do
  savePlace
  allowKey false
  emit (← read)

/-- A token at the left margin that closes all blocks. -/
def marginal (read : Scan Token) : Scan Unit := do
  closeBlocks none
  dropPlace
  allowKey false
  emit (← read)

/-- Can a plain scalar start here? -/
def plainStarts (inFlow : Bool) : Text → Bool
  | [] => false
  | c :: rest =>
    let isMark := c.char?.any fun c => "-?:,[]\x7b\x7d#&*!|>'\"%@\x60".toList.contains c
    (!isBlankOrEnd (some c) && !isMark)
      || (!isBlankOrEnd rest.head? && (c = .char '-' || (!inFlow && (c = .char '?' || c = .char ':'))))

/-- Reads the next token; the answer tells whether there was one. -/
def nextToken : Scan Bool := do
  skipToToken ((← rest).length + 1)
  dropStalePlaces
  closeBlocks (some (← get).column)
  let s ← get
  let fuel := s.rest.length + 1
  let inFlow := s.flowLevel ≠ 0
  match s.rest with
  | [] =>
    closeBlocks none
    dropPlace
    return false
  | c :: more =>
    let marks := inFlow || isBlankOrEnd more.head?
    if c = .char '%' && s.column = 0 then
      marginal do
        forward 1
        directive
    else if s.column = 0 && (← atMarker) && (c = .char '-' || c = .char '.') then
      marginal do
        forward 3
        return if c = .char '-' then .documentStart else .documentEnd
    else if c = .char '[' then flowMark .flowSequenceStart true
    else if c = .char '\x7b' then flowMark .flowMappingStart true
    else if c = .char ']' then flowMark .flowSequenceEnd false
    else if c = .char '\x7d' then flowMark .flowMappingEnd false
    else if c = .char ',' then
      allowKey true
      dropPlace
      forward 1
      emit .flowEntry
    else if c = .char '-' && isBlankOrEnd more.head? then
      blockMark .blockSequenceStart
      allowKey true
      dropPlace
      forward 1
      emit .blockEntry
    else if c = .char '?' && marks then
      blockMark .blockMappingStart
      allowKey (!inFlow)
      dropPlace
      forward 1
      emit .key
    else if c = .char ':' && marks then valueMark
    else if c = .char '*' then
      keyLike do
        forward 1
        return .alias (← anchorName)
    else if c = .char '&' then
      keyLike do
        forward 1
        return .anchor (← anchorName)
    else if c = .char '!' then keyLike tagToken
    else if (c = .char '|' || c = .char '>') && !inFlow then
      allowKey true
      dropPlace
      emit (← blockScalar (c = .char '>'))
    else if c = .char '\'' || c = .char '"' then
      keyLike do
        forward 1
        return .scalar (← quotedText (c = .char '"') fuel) false
    else if plainStarts inFlow s.rest then do
      savePlace
      allowKey false
      emit (.scalar (← plainText (blockDepth s) fuel []) true)
    else fail
    return true

/-- Reads all tokens. -/
def allTokens : Nat → Scan Unit
  | 0 => fail
  | fuel + 1 => do
    if ← nextToken then allTokens fuel

end Scan

/-- The tokens of a text. -/
def tokensOf (t : Text) : Except Fault (List Token) :=
  if !t.all isAllowed then .error .malformed
  else
    let body := match t with
      | .char '\ufeff' :: rest => rest
      | _ => t
    match (Scan.allTokens (body.length + 1)).run (Scanner.start body) with
    | .ok (_, s) => .ok s.tokens.toList
    | .error e => .error e

end SchemaGate.Yaml
