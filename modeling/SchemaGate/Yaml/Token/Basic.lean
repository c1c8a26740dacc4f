import SchemaGate.Yaml.Plain
import SchemaGate.Text.Cut

/-!
Tokens of YAML, and the state in which they are read. Block structure is told by columns: a list entry
or a key deeper than the block around it opens a block, and a shallower line closes blocks. A scalar
is known to be a key only when its colon is met, so the place where it may have been one is
remembered. Such a place is given up at the end of the line or after 1024 characters; a place at which
nothing but a key can stand may not be given up.
-/

namespace SchemaGate.Yaml

/-- Why a text is not YAML. -/
inductive Fault where
  | malformed
  /-- An escape beyond the last code point. -/
  | badCodePoint
  /-- A number with too many digits. -/
  | longNumber (digits : Nat)
  /-- A date or time that the calendar does not have. -/
  | noSuchDate (message : String)

/-- Tokens. A tag has a handle, unless it is written out. -/
inductive Token where
  | directiveYaml (major : Nat)
  | directiveTag (handle start : Text)
  | directiveOther
  | documentStart
  | documentEnd
  | blockSequenceStart
  | blockMappingStart
  | blockEnd
  | flowSequenceStart
  | flowSequenceEnd
  | flowMappingStart
  | flowMappingEnd
  | flowEntry
  | blockEntry
  | key
  | value
  | alias (name : Text)
  | anchor (name : Text)
  | tag (handle : Option Text) (suffix : Text)
  | scalar (text : Text) (plain : Bool)

/-- A place at which a key may have started. -/
structure KeyPlace where
  /-- How many tokens stand before it. -/
  position : Nat
  required : Bool
  index : Nat
  line : Nat
  column : Nat

/-- The state of the scanner. Key places are kept with the depth of flow brackets around them. -/
structure Scanner where
  rest : Text
  index : Nat
  line : Nat
  column : Nat
  flowLevel : Nat
  /-- The column of the innermost block, and of the blocks around it. -/
  indents : List Nat
  allowKey : Bool
  places : List (Nat × KeyPlace)
  tokens : Array Token

/-- A scanning step. -/
abbrev Scan (α : Type) := StateT Scanner (Except Fault) α

namespace Scanner

/-- A scanner at the start of a text. -/
def start (t : Text) : Scanner := ⟨t, 0, 0, 0, 0, [], true, [], #[]⟩

end Scanner

/-! ### Characters -/

def isBreak (c : CodePoint) : Bool := c.value ∈ [0xA, 0xD, 0x85, 0x2028, 0x2029]

/-- The end of a line, or of the text. -/
def isLineEnd : Option CodePoint → Bool
  | none => true
  | some c => isBreak c

/-- A space, the end of a line, or the end of the text. -/
def isSpaceOrEnd : Option CodePoint → Bool
  | none => true
  | some c => c = .char ' ' || isBreak c

/-- White space, or the end of the text. -/
def isBlankOrEnd : Option CodePoint → Bool
  | none => true
  | some c => isTabOrSpace c || isBreak c

/-- May the character stand in a document at all? -/
def isAllowed (c : CodePoint) : Bool :=
  let n := c.value
  n = 0x9 || n = 0xA || n = 0xD || (0x20 ≤ n && n ≤ 0x7E) || n = 0x85 || (0xA0 ≤ n && n ≤ 0xD7FF)
    || (0xE000 ≤ n && n ≤ 0xFFFD) || 0x10000 ≤ n

/-- A character of a name. -/
def isWord (c : CodePoint) : Bool :=
  c.char?.any fun c => c.isAlphanum || c = '-' || c = '_'

/-- A character of an address, percent escapes aside. -/
def isAddress (c : CodePoint) : Bool :=
  c.char?.any fun c => c.isAlphanum || "-;/?:@&=+$,_.!~*'()[]".toList.contains c

namespace Scan

def fail {α : Type} : Scan α := throw .malformed

/-- The text that is left. -/
def rest : Scan Text := return (← get).rest

/-- The next character. -/
def peek : Scan (Option CodePoint) := return (← get).rest.head?

/-- Whether the next character is the given one. -/
def at? (c : Char) : Scan Bool := return (← get).rest.head? = some (.char c)

/-- The state behind the next character. -/
def step (s : Scanner) : Scanner :=
  match s.rest with
  | [] => s
  | c :: rest =>
    let s := { s with rest := rest, index := s.index + 1 }
    if isBreak c && !(c = .char '\r' && rest.head? = some (.char '\n')) then
      { s with line := s.line + 1, column := 0 }
    else if c = .char '\ufeff' then s
    else { s with column := s.column + 1 }

/-- Moves behind `n` characters. -/
def forward : Nat → Scan Unit
  | 0 => pure ()
  | n + 1 => do
    modify step
    forward n

/-- Takes the characters of a class at the front. -/
def takeWhile (p : CodePoint → Bool) : Scan Text := do
  let taken := (← rest).takeWhile p
  forward taken.length
  return taken

def skipSpaces : Scan Unit := do
  let _ ← takeWhile (· = .char ' ')

/-- Skips a comment up to the end of the line. -/
def skipComment : Scan Unit := do
  if ← at? '#' then
    let _ ← takeWhile (!isBreak ·)

/-- Takes a line break, which reads as a newline unless it is one of the Unicode separators. -/
def lineBreak : Scan Text := do
  match ← rest with
  | .char '\r' :: .char '\n' :: _ =>
    forward 2
    return [.char '\n']
  | c :: _ =>
    if isBreak c then
      forward 1
      return [if c.value = 0x2028 ∨ c.value = 0x2029 then c else .char '\n']
    else return []
  | [] => return []

/-- Does a document marker start here? -/
def atMarker : Scan Bool := do
  let t ← rest
  return ((startsWith ("---" : Text) t || startsWith ("..." : Text) t) && isBlankOrEnd t[3]?)

def emit (t : Token) : Scan Unit := modify fun s => { s with tokens := s.tokens.push t }

/-! ### Blocks and key places -/

/-- The column of the innermost block plus one; zero outside all blocks. -/
def blockDepth (s : Scanner) : Nat :=
  match s.indents with
  | [] => 0
  | i :: _ => i + 1

/-- Opens a block at a column deeper than the one around it; the answer tells whether it did. -/
def openBlock (column : Nat) : Scan Bool := do
  let s ← get
  if blockDepth s ≤ column then
    set { s with indents := column :: s.indents }
    return true
  else return false

/-- Closes the blocks deeper than a column; `none` closes all. -/
def closeBlocks (column : Option Nat) : Scan Unit :=
  modify fun s =>
    if s.flowLevel ≠ 0 then s
    else
      let isDeeper := fun (i : Nat) => column.all fun c => c < i
      let closed := s.indents.takeWhile isDeeper
      { s with
        indents := s.indents.dropWhile isDeeper
        tokens := s.tokens ++ (closed.map fun _ => Token.blockEnd).toArray }

/-- Gives up the key place of the current depth. -/
def dropPlace : Scan Unit := do
  let s ← get
  match s.places.find? fun p => p.1 = s.flowLevel with
  | some (_, p) =>
    if p.required then fail
    else set { s with places := s.places.filter fun p => p.1 ≠ s.flowLevel }
  | none => return

/-- Gives up the key places that are too far back. -/
def dropStalePlaces : Scan Unit := do
  let s ← get
  let isStale := fun (p : Nat × KeyPlace) => p.2.line ≠ s.line || p.2.index + 1024 < s.index
  if s.places.any fun p => isStale p && p.2.required then fail
  else set { s with places := s.places.filter fun p => !isStale p }

/-- Remembers that a key may start here. -/
def savePlace : Scan Unit := do
  let s ← get
  if s.allowKey then
    dropPlace
    modify fun s =>
      let required := s.flowLevel = 0 && s.indents.head? = some s.column
      let p : KeyPlace := ⟨s.tokens.size, required, s.index, s.line, s.column⟩
      { s with places := (s.flowLevel, p) :: s.places }

def allowKey (b : Bool) : Scan Unit := modify fun s => { s with allowKey := b }

/-- Skips white space, comments and line breaks up to the next token. -/
def skipToToken : Nat → Scan Unit
  | 0 => pure ()
  | fuel + 1 => do
    skipSpaces
    skipComment
    let b ← lineBreak
    if b.isEmpty then return
    if (← get).flowLevel = 0 then allowKey true
    skipToToken fuel

end Scan

end SchemaGate.Yaml
