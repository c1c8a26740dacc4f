import SchemaGate.Text.CodePoint
import SchemaGate.Xml.Character

/-!
Reading characters. A cursor is the text still to be read and the line it starts on; only newlines
count lines. A reader advances the cursor and may complain without stopping. It stops at a fatal
fault, and reports the line of the first complaint that is an error, or else the line it stopped on.
-/

namespace SchemaGate.Text

/-- The text of characters. -/
def ofChars (cs : List Char) : Text := cs.map .char

/-- The characters of a text. -/
def chars (t : Text) : List Char := t.filterMap CodePoint.char?

end SchemaGate.Text

namespace SchemaGate.Xml

/-- Text to be read and the line it starts on. -/
structure Cursor where
  rest : List Char
  line : Nat

/-- Each pair CR LF as one newline; a CR alone stays until it is read. -/
def joinPairs (cs : List Char) : List Char :=
  (cs.foldl
    (fun (done : List Char) c =>
      match c, done with
      | '\n', '\r' :: before => '\n' :: before
      | c, done => c :: done) []).reverse

namespace Cursor

/-- A cursor at the start of a text. -/
def start (cs : List Char) : Cursor := ⟨joinPairs cs, 1⟩

/-- A line end of any form reads as a newline. -/
def readAs (c : Char) : Char := if c = '\r' then '\n' else c

/-- The cursor behind the next characters. -/
def skip (c : Cursor) : Nat → Cursor
  | 0 => c
  | n + 1 =>
    match c.rest with
    | [] => c
    | x :: rest => skip ⟨rest, if x = '\n' then c.line + 1 else c.line⟩ n

/-- From a text that starts on a line: the characters, the latest one first, before the first place
where `stops` holds or a character stands that no document may hold, and what is left from there. -/
def spanFrom (stops : List Char → Bool) (done : List Char) (line : Nat) :
    List Char → List Char × Cursor
  | [] => (done, ⟨[], line⟩)
  | c :: rest =>
    if stops (c :: rest) || !isCharacter c then (done, ⟨c :: rest, line⟩)
    else spanFrom stops (readAs c :: done) (if c = '\n' then line + 1 else line) rest

/-- The characters before the first place where `stops` holds or a character stands that no document
may hold. -/
def span (stops : List Char → Bool) (c : Cursor) : List Char × Cursor :=
  let (done, after) := spanFrom stops [] c.line c.rest
  (done.reverse, after)

end Cursor

/-- A complaint that does not stop the reading. -/
inductive Complaint where
  | error (line : Nat)
  | warning
  deriving DecidableEq

/-- What a reader advances. -/
structure Scan where
  cursor : Cursor
  /-- The line of the reference, while an entity is read. -/
  outerLine : Option Nat
  /-- The complaints so far, the latest first. -/
  complaints : List Complaint
  /-- How many characters the document has. -/
  size : Nat
  /-- How many characters have come out of entities. -/
  expanded : Nat

namespace Scan

/-- At the start of a text. -/
def start (cs : List Char) : Scan := ⟨.start cs, none, [], cs.length, 0⟩

/-- The line that a fault is reported on. -/
def line (s : Scan) : Nat := s.outerLine.getD s.cursor.line

/-- The line of the first complaint that is an error. -/
def firstError? (s : Scan) : Option Nat :=
  s.complaints.reverse.findSome? fun
    | .error line => some line
    | .warning => none

/-- The line on which the document is refused for its complaints: the last one must be an error. -/
def refusal? (s : Scan) : Option Nat :=
  match s.complaints.head? with
  | some (.error _) => s.firstError?
  | _ => none

end Scan

/-- A reader ends with a value, or with the line on which the document is refused. -/
abbrev Scanner (α : Type) := StateT Scan (Except Nat) α

namespace Scanner

variable {α : Type}

/-- Stops at a fatal fault. -/
def fail : Scanner α := do
  let s ← get
  throw (s.firstError?.getD s.line)

/-- Complains of an error that does not stop the reading. -/
def complain : Scanner Unit :=
  modify fun s => { s with complaints := .error s.line :: s.complaints }

/-- Warns. -/
def warn : Scanner Unit := modify fun s => { s with complaints := .warning :: s.complaints }

/-- The text still to be read. -/
def rest : Scanner (List Char) := return (← get).cursor.rest

/-- The current line. -/
def line : Scanner Nat := return (← get).cursor.line

/-- Goes on from another place. -/
def jump (c : Cursor) : Scanner Unit := modify fun s => { s with cursor := c }

/-- Advances over characters. -/
def advance (n : Nat) : Scanner Unit := do jump ((← get).cursor.skip n)

/-- Does the text go on with these characters? -/
def looksAt (word : String) : Scanner Bool := return word.toList.isPrefixOf (← rest)

/-- Advances over these characters if they come next. -/
def accept (word : String) : Scanner Bool := do
  if ← looksAt word then
    advance word.length
    return true
  else return false

/-- Advances over these characters, which have to come next. -/
def expect (word : String) : Scanner Unit := do
  if !(← accept word) then fail

/-- Reads up to a place. -/
def span (stops : List Char → Bool) : Scanner (List Char) := do
  let (cs, after) := (← get).cursor.span stops
  jump after
  return cs

/-- Reads what belongs to a class. -/
def spanClass (p : Char → Bool) : Scanner (List Char) :=
  span fun
    | c :: _ => !p c
    | [] => true

/-- Reads up to a mark and advances over it; the mark has to come. -/
def upTo (mark : String) : Scanner (List Char) := do
  let cs ← span mark.toList.isPrefixOf
  expect mark
  return cs

/-- Skips white space; was there any? -/
def spaces : Scanner Bool := return !(← spanClass isSpace).isEmpty

/-- Skips white space, of which there has to be some. -/
def someSpaces : Scanner Unit := do
  if !(← spaces) then fail

/-- The most characters of a name. -/
def nameLimit : Nat := 50000

/-- Reads a name whose first and other characters belong to classes, if one comes next. -/
def nameOf? (first other : Char → Bool) : Scanner (Option (List Char)) := do
  match ← rest with
  | c :: _ =>
    if first c then
      let cs ← spanClass other
      if nameLimit < cs.length then fail
      return some cs
    else return none
  | [] => return none

/-- Reads a name that may hold colons. -/
def name? : Scanner (Option (List Char)) := nameOf? isNameStart isNameCharacter

/-- Reads a name without colons. -/
def plainName? : Scanner (Option (List Char)) := nameOf? isPlainNameStart isPlainNameCharacter

/-- Reads a name token. -/
def nameToken? : Scanner (Option (List Char)) := nameOf? isNameCharacter isNameCharacter

/-- The value of a reading that has to succeed. -/
def need (reading : Scanner (Option α)) : Scanner α := do
  match ← reading with
  | some a => return a
  | none => fail

/-- Reads a text between two equal quotes. -/
def literal? : Scanner (Option (List Char)) := do
  if ← accept "\"" then return some (← upTo "\"")
  else if ← accept "'" then return some (← upTo "'")
  else return none

end Scanner

end SchemaGate.Xml
