import SchemaGate.Yaml.Plain

/-!
Printing YAML in ASCII, in block style. Lists and objects stand under their key, two spaces deeper
for an object and at the same depth for a list; empty ones are written in brackets. A text is plain
where it then reads as a text, else in apostrophes, else in quotation marks with escapes. A text that
is wider than the line is folded at a single space, or in quotation marks behind a backslash.
-/

namespace SchemaGate.Yaml

/-- Lines are folded behind this column. -/
def lineWidth : Nat := 80

/-- White space, or the end of the text. -/
def isGap : Option CodePoint → Bool
  | none => true
  | some c => c.value ∈ [0, 0x20, 0x9, 0xD, 0xA, 0x85, 0x2028, 0x2029]

/-- May the character not start a plain text, whatever follows? -/
def isReserved (c : CodePoint) : Bool :=
  c.char?.any fun c => "#,[]\x7b\x7d&*!|>'\"%@\x60".toList.contains c

/-- Is something in the text read as an indicator, from behind the character `before`? -/
def hasIndicator (before : CodePoint) : Text → Bool
  | [] => false
  | c :: rest =>
    (c = .char ':' && isGap rest.head?) || (c = .char '#' && isGap (some before))
      || hasIndicator c rest

/-- Does the text start with something that is read as an indicator? -/
def startsAsIndicator : Text → Bool
  | [] => false
  | c :: rest =>
    isReserved c || ((c = .char '?' || c = .char ':' || c = .char '-') && isGap rest.head?)
      || startsWith ("---" : Text) (c :: rest) || startsWith ("..." : Text) (c :: rest)

/-- A character that needs an escape. -/
def isSpecial (c : CodePoint) : Bool := !(c.value = 10 || (0x20 ≤ c.value && c.value ≤ 0x7E))

/-- A space or a newline at either end. -/
def hasOuterSpace (t : Text) : Bool :=
  let isOuter := fun (c : CodePoint) => c = .char ' ' || c = .char '\n'
  t.head?.any isOuter || t.getLast?.any isOuter

/-- Does a space stand next to a newline? -/
def mixesSpace : Text → Bool
  | a :: b :: rest =>
    (a = .char ' ' && b = .char '\n') || (a = .char '\n' && b = .char ' ') || mixesSpace (b :: rest)
  | _ => false

/-- How a text is written. -/
inductive Style where
  | plain
  | apostrophes
  | quotes

/-- May the text stand without quotes, as far as its characters go? -/
def allowsPlain (t : Text) : Bool :=
  !(hasOuterSpace t || mixesSpace t || t.any isSpecial || t.contains (.char '\n')
    || startsAsIndicator t || hasIndicator (t.head?.getD default) (t.drop 1))

/-- The style of a text; a key on one line may not hold newlines in apostrophes. -/
def styleOf (simpleKey : Bool) (t : Text) : Style :=
  if kindOf t = .text && !t.isEmpty && allowsPlain t then .plain
  else if t.any isSpecial || mixesSpace t || (simpleKey && t.contains (.char '\n')) then .quotes
  else .apostrophes

/-- A new line with `indent` spaces. -/
def newLine (indent : Nat) : Text := .char '\n' :: List.replicate indent (.char ' ')

/-- Text that is folded at single spaces: `column` is where it starts, and `quote` writes one
character. -/
def foldSpaces (quote : CodePoint → Text) (indent : Nat) (fold : Bool) : Nat → Bool → Text → Text
  | _, _, [] => []
  | column, first, .char ' ' :: rest =>
    let alone := rest.head? ≠ some (.char ' ')
    if fold && alone && !first && !rest.isEmpty && lineWidth < column then
      newLine indent ++ foldSpaces quote indent fold indent false rest
    else .char ' ' :: inSpaces quote indent fold (column + 1) rest
  | column, _, .char '\n' :: rest =>
    .char '\n' :: .char '\n' :: inBreaks quote indent fold column rest
  | column, _, c :: rest =>
    quote c ++ foldSpaces quote indent fold (column + (quote c).length) false rest
where
  /-- Further spaces of a run are written as they are. -/
  inSpaces (quote : CodePoint → Text) (indent : Nat) (fold : Bool) : Nat → Text → Text
    | column, .char ' ' :: rest => .char ' ' :: inSpaces quote indent fold (column + 1) rest
    | column, rest => foldSpaces quote indent fold column false rest
  /-- Each further newline of a run is one more line. -/
  inBreaks (quote : CodePoint → Text) (indent : Nat) (fold : Bool) : Nat → Text → Text
    | column, .char '\n' :: rest => .char '\n' :: inBreaks quote indent fold column rest
    | _, rest =>
      List.replicate indent (.char ' ') ++ foldSpaces quote indent fold indent false rest

/-- A character between quotation marks. -/
def escapeChar (c : CodePoint) : Text :=
  let n := c.value
  let short : List (Nat × Char) :=
    [(0, '0'), (7, 'a'), (8, 'b'), (9, 't'), (10, 'n'), (11, 'v'), (12, 'f'), (13, 'r'),
     (0x1B, 'e'), (0x22, '"'), (0x5C, '\\'), (0x85, 'N'), (0xA0, '_'), (0x2028, 'L'),
     (0x2029, 'P')]
  match short.find? fun e => e.1 = n with
  | some (_, letter) => [.char '\\', .char letter]
  | none =>
    if 0x20 ≤ n ∧ n ≤ 0x7E then [c]
    else
      let hex := fun (width : Nat) => (Text.hexDigits width n).asciiUpper
      if n ≤ 0xFF then "\\x" ++ hex 2
      else if n ≤ 0xFFFF then "\\u" ++ hex 4
      else "\\U" ++ hex 8

/-- Text between quotation marks, folded behind a backslash. `waiting` is the part of the line that
is not counted in `column` yet. -/
def foldEscaped (indent : Nat) (fold : Bool) : Nat → Nat → Bool → Text → Text
  | _, _, _, [] => []
  | column, waiting, first, c :: rest =>
    let written := escapeChar c
    let isPlain := written = [c]
    let column := if isPlain then column else column + waiting + written.length
    let breaks := fold && !first && !rest.isEmpty &&
      (if isPlain then (c = .char ' ' || waiting = 0) && lineWidth < column + waiting
       else lineWidth < column - 1)
    if breaks then
      let next := if isPlain then c :: rest else rest
      let guard : Text := if next.head? = some (.char ' ') then "\\" else ""
      let before : Text := if isPlain then "\\" ++ newLine indent ++ guard ++ written
        else written ++ "\\" ++ newLine indent ++ guard
      before ++ foldEscaped indent fold (indent + guard.length) (if isPlain then 1 else 0) false rest
    else
      written ++ foldEscaped indent fold column (if isPlain then waiting + 1 else 0) false rest

/-- A text in its style. `indent` is where its further lines start and `column` where it starts. -/
def printText (simpleKey : Bool) (indent column : Nat) (t : Text) : Text :=
  match styleOf simpleKey t with
  | .plain => foldSpaces (fun c => [c]) indent (!simpleKey) column false t
  | .apostrophes =>
    let double := fun (c : CodePoint) => if c = .char '\'' then [c, c] else [c]
    "'" ++ foldSpaces double indent (!simpleKey) (column + 1) true t ++ "'"
  | .quotes => "\"" ++ foldEscaped indent (!simpleKey) (column + 1) 0 true t ++ "\""

/-- May a key stand on one line with its colon? -/
def isSimpleKey (key : Text) : Bool :=
  !key.isEmpty && !key.contains (.char '\n') && key.length + 5 < 128

/-- A scalar that is not a text. -/
def printAtom : Value → Text
  | .null => "null"
  | .bool true => "true"
  | .bool false => "false"
  | .int n => Text.ofInt n
  | .decimal literal => literal
  | _ => []

mutual

/-- A value behind an indicator in the same line: the line goes on at column `indent`, where further
lines of a list or an object start as well. -/
def printInline (indent : Nat) : Value → Text
  | .text t => printText false indent indent t
  | .list [] => "[]"
  | .list (v :: vs) => "- " ++ printInline (indent + 2) v ++ printItems indent vs
  | .object [] => "\x7b\x7d"
  | .object ((k, v) :: fs) => printField indent k v ++ printFields indent fs
  | v => printAtom v

/-- Further items of a list, each on its own line. -/
def printItems (indent : Nat) : List Value → Text
  | [] => []
  | v :: vs => newLine indent ++ "- " ++ printInline (indent + 2) v ++ printItems indent vs

/-- A key and its value. -/
def printField (indent : Nat) (key : Text) : Value → Text
  | .list (v :: vs) =>
    if isSimpleKey key then
      printText true (indent + 2) indent key ++ ":" ++ newLine indent ++ "- "
        ++ printInline (indent + 2) v ++ printItems indent vs
    else
      "? " ++ printText false (indent + 2) (indent + 2) key ++ newLine indent ++ ": - "
        ++ printInline (indent + 4) v ++ printItems (indent + 2) vs
  | .object ((k, v) :: fs) =>
    if isSimpleKey key then
      printText true (indent + 2) indent key ++ ":" ++ newLine (indent + 2)
        ++ printField (indent + 2) k v ++ printFields (indent + 2) fs
    else
      "? " ++ printText false (indent + 2) (indent + 2) key ++ newLine indent ++ ": "
        ++ printField (indent + 2) k v ++ printFields (indent + 2) fs
  | v =>
    let scalar := fun (column : Nat) => match v with
      | .text t => printText false (indent + 2) column t
      | .list _ => "[]"
      | .object _ => "\x7b\x7d"
      | v => printAtom v
    if isSimpleKey key then
      let head := printText true (indent + 2) indent key ++ ":"
      head ++ " " ++ scalar (indent + head.length + 1)
    else
      "? " ++ printText false (indent + 2) (indent + 2) key ++ newLine indent ++ ": "
        ++ scalar (indent + 2)

/-- Further fields of an object, each on its own line. -/
def printFields (indent : Nat) : List (Text × Value) → Text
  | [] => []
  | (k, v) :: fs => newLine indent ++ printField indent k v ++ printFields indent fs

end

/-- A document that holds the value. -/
def print (v : Value) : Text := printInline 0 v ++ "\n"

end SchemaGate.Yaml
