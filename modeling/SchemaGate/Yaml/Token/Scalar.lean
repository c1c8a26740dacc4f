import SchemaGate.Yaml.Token.Annotation

/-!
Scalars. A block scalar is what is indented below its header; a quoted scalar ends at its quote, and a
plain one where something else begins. A line break inside a scalar reads as a space, and breaks behind
it as themselves, except in literal block scalars, which keep all.
-/

namespace SchemaGate.Yaml.Scan

/-! ### Block scalars -/

/-- Skips spaces up to a column. -/
def skipIndent (column : Nat) : Scan Unit := do
  let s ← get
  let spaces := s.rest.takeWhile (· = .char ' ')
  forward (min spaces.length (column - s.column))

/-- Line breaks at the front, and the deepest column that the spaces between them reach. -/
def leadingBreaks : Nat → Scan (Text × Nat)
  | 0 => return ([], 0)
  | fuel + 1 => do
    let spaces ← takeWhile (· = .char ' ')
    let reached := (← get).column
    let column := if spaces.isEmpty then 0 else reached
    let b ← lineBreak
    if b.isEmpty then return ([], column)
    let (more, deepest) ← leadingBreaks fuel
    return (b ++ more, max column deepest)

/-- Line breaks at the front, each followed by at most the indentation. -/
def indentedBreaks (column : Nat) : Nat → Scan Text
  | 0 => return []
  | fuel + 1 => do
    skipIndent column
    let b ← lineBreak
    if b.isEmpty then return []
    return b ++ (← indentedBreaks column fuel)

/-- What a block scalar's header says: keep or drop the last line breaks, and the indentation. -/
def blockHeader : Scan (Option Bool × Option Nat) := do
  let chomp : Scan (Option Bool) := do
    if ← at? '+' then
      forward 1
      return some true
    else if ← at? '-' then
      forward 1
      return some false
    else return none
  let increment : Scan (Option Nat) := do
    match ← peek with
    | some c =>
      if c = .char '0' then fail
      else if isDigit c then
        forward 1
        return some (c.value - 0x30)
      else return none
    | none => return none
  let first ← chomp
  let width ← increment
  let last ← if first.isNone && width.isSome then chomp else pure none
  if isSpaceOrEnd (← peek) then return (first <|> last, width) else fail

/-- The lines of a block scalar: the text so far, the last line break and the breaks behind it. -/
def blockLines (folded : Bool) (indent : Nat) : Nat → Text → Text → Text → Scan (Text × Text × Text)
  | 0, text, lastBreak, breaks => return (text, lastBreak, breaks)
  | fuel + 1, text, lastBreak, breaks => do
    let s ← get
    if s.column ≠ indent || s.rest.isEmpty then return (text, lastBreak, breaks)
    let isFlush := !(s.rest.head?.any isTabOrSpace)
    let line ← takeWhile (!isBreak ·)
    let text := text ++ breaks ++ line
    let lastBreak ← lineBreak
    let breaks ← indentedBreaks indent (← rest).length
    let s ← get
    if s.column ≠ indent || s.rest.isEmpty then return (text, lastBreak, breaks)
    let joins := folded && lastBreak = [.char '\n'] && isFlush && !(s.rest.head?.any isTabOrSpace)
    let link : Text := if !joins then lastBreak else if breaks.isEmpty then " " else ""
    blockLines folded indent fuel (text ++ link) [] breaks

/-- A block scalar, from its header mark on. -/
def blockScalar (folded : Bool) : Scan Token := do
  forward 1
  let (chomp, increment) ← blockHeader
  ignoredLine
  let s ← get
  let least := max 1 (blockDepth s)
  let size := s.rest.length + 1
  let (indent, breaks) ← match increment with
    | some n => do
      let breaks ← indentedBreaks (least + n - 1) size
      pure (least + n - 1, breaks)
    | none => do
      let (breaks, deepest) ← leadingBreaks size
      pure (max least deepest, breaks)
  let (text, lastBreak, breaks) ← blockLines folded indent size [] [] breaks
  let tail := (if chomp = some false then [] else lastBreak)
    ++ (if chomp = some true then breaks else [])
  return .scalar (text ++ tail) false

/-! ### Quoted scalars -/

/-- What a character after a backslash stands for. -/
def simpleEscape? (c : CodePoint) : Option CodePoint :=
  let short : List (Char × Char) :=
    [('0', '\x00'), ('a', '\x07'), ('b', '\x08'), ('t', '\t'), ('\t', '\t'), ('n', '\n'),
     ('v', '\x0b'), ('f', '\x0c'), ('r', '\r'), ('e', '\x1b'), (' ', ' '), ('"', '"'),
     ('\\', '\\'), ('/', '/'), ('N', '\x85'), ('_', '\xa0'), ('L', '\u2028'), ('P', '\u2029')]
  c.char?.bind fun c => (short.find? fun e => e.1 = c).map fun e => .char e.2

/-- How many hexadecimal digits follow the letter of an escape. -/
def escapeWidth? : CodePoint → Option Nat
  | .char 'x' => some 2
  | .char 'u' => some 4
  | .char 'U' => some 8
  | _ => none

/-- Line breaks and white space between the lines of a quoted scalar. -/
def quotedBreaks : Nat → Scan Text
  | 0 => return []
  | fuel + 1 => do
    if ← atMarker then fail
    let _ ← takeWhile isTabOrSpace
    let b ← lineBreak
    if b.isEmpty then return []
    return b ++ (← quotedBreaks fuel)

/-- The text that one line break and the breaks behind it stand for. -/
def joinBreaks (first breaks : Text) : Text :=
  if first ≠ [.char '\n'] then first ++ breaks
  else if breaks.isEmpty then " "
  else breaks

/-- An escape, from behind the backslash. -/
def escape (fuel : Nat) : Scan Text := do
  match ← rest with
  | [] => fail
  | c :: more =>
    match simpleEscape? c, escapeWidth? c with
    | some e, _ =>
      forward 1
      return [e]
    | none, some width =>
      let digits := more.take width
      if digits.length < width || digits.any fun d => d.hexDigit?.isNone then fail
      let code := digitsIn 16 digits
      match CodePoint.ofValue? code with
      | some e =>
        forward (width + 1)
        return [e]
      | none => throw .badCodePoint
    | none, none =>
      if isBreak c then
        let _ ← lineBreak
        quotedBreaks fuel
      else fail

/-- A quoted scalar from behind its opening quote. -/
def quotedText (double : Bool) : Nat → Scan Text
  | 0 => fail
  | fuel + 1 => do
    let quote := if double then CodePoint.char '"' else .char '\''
    match ← rest with
    | [] => fail
    | c :: more =>
      if c = quote then
        if !double && more.head? = some quote then
          forward 2
          return quote :: (← quotedText double fuel)
        else
          forward 1
          return []
      else if double && c = .char '\\' then
        forward 1
        let e ← escape fuel
        return e ++ (← quotedText double fuel)
      else if isTabOrSpace c || isBreak c then
        let spaces ← takeWhile isTabOrSpace
        let first ← lineBreak
        if first.isEmpty then
          if (← rest).isEmpty then fail
          return spaces ++ (← quotedText double fuel)
        else
          let breaks ← quotedBreaks fuel
          return joinBreaks first breaks ++ (← quotedText double fuel)
      else
        forward 1
        return c :: (← quotedText double fuel)

/-! ### Plain scalars -/

/-- Does a plain scalar end before this text? -/
def plainEnds (inFlow : Bool) : Text → Bool
  | [] => true
  | c :: rest =>
    let isFlowMark := fun (c : CodePoint) => c.char?.any fun c => ",[]\x7b\x7d".toList.contains c
    isBlankOrEnd (some c)
      || (c = .char ':' && (isBlankOrEnd rest.head? || (inFlow && rest.head?.any isFlowMark)))
      || (inFlow && (isFlowMark c || c = .char '?'))

/-- The characters of a plain scalar up to white space. -/
def plainWord (inFlow : Bool) : Text → Text
  | [] => []
  | c :: rest => if plainEnds inFlow (c :: rest) then [] else c :: plainWord inFlow rest

/-- Line breaks inside a plain scalar; `none` if a document marker follows one. -/
def plainBreaks : Nat → Scan (Option Text)
  | 0 => return some []
  | fuel + 1 => do
    skipSpaces
    let b ← lineBreak
    if b.isEmpty then return some []
    if ← atMarker then return none
    return (← plainBreaks fuel).map (b ++ ·)

/-- White space inside a plain scalar. -/
def plainSpaces (fuel : Nat) : Scan Text := do
  let spaces ← takeWhile (· = .char ' ')
  let first ← lineBreak
  if first.isEmpty then return spaces
  allowKey true
  if ← atMarker then return []
  match ← plainBreaks fuel with
  | some breaks => return joinBreaks first breaks
  | none => return []

/-- A plain scalar: words and the white space between them. -/
def plainText (indent : Nat) : Nat → Text → Scan Text
  | 0, _ => return []
  | fuel + 1, spaces => do
    let s ← get
    if s.rest.head? = some (.char '#') then return []
    let word := plainWord (s.flowLevel ≠ 0) s.rest
    if word.isEmpty then return []
    allowKey false
    forward word.length
    let next ← plainSpaces fuel
    let s ← get
    if next.isEmpty || s.rest.head? = some (.char '#') || (s.flowLevel = 0 && s.column < indent) then
      return spaces ++ word
    return spaces ++ word ++ (← plainText indent fuel next)

end SchemaGate.Yaml.Scan
