import SchemaGate.Association
import SchemaGate.Table.Escape
import SchemaGate.Text.Lines

/-!
Mapping tables: `key=value`, `key:value` or `key value`, one entry a line. A line that ends in an odd
number of backslashes is continued by the next one, whose leading blanks do not count. A line whose
first character is `#` or `!` is a comment, which is never continued. A later entry overrides an
earlier one of the same key.
-/

namespace SchemaGate

/-- A table of texts. -/
abbrev Mappings := List (Text × Text)

namespace Table

/-- Does a comment start here? -/
def isCommentMark (c : CodePoint) : Bool := c = .char '#' || c = .char '!'

/-- Is the line a comment, blanks in front of it aside? -/
def isComment (line : Text) : Bool := line.trimLeft.head?.any isCommentMark

/-- Does the line end in an odd number of backslashes? -/
def isContinued (line : Text) : Bool :=
  (line.reverse.takeWhile (· = .char '\\')).length % 2 = 1

/-- Lines with their continuations joined, given what the lines before have left to be continued. -/
def joinLines : Text → List Text → List Text
  | pending, [] => if pending.isEmpty then [] else [pending]
  | pending, raw :: rest =>
    let line := if pending.isEmpty then raw else raw.trimLeft
    if pending.isEmpty && isComment line then line :: joinLines [] rest
    else if isContinued line then joinLines (pending ++ line.dropLast) rest
    else (pending ++ line) :: joinLines [] rest

/-- The entries, comments and blank lines of a table, each on one line. -/
def logicalLines (text : Text) : List Text := joinLines [] text.splitLines

/-- May the character end a key and belong to the separator? -/
def isSeparator (c : CodePoint) : Bool := c = .char '=' || c = .char ':'

/-- The written key at the front of an entry, and what follows it. -/
def takeKey : Text → Text × Text
  | .char '\\' :: c :: rest =>
    let (key, after) := takeKey rest
    (.char '\\' :: c :: key, after)
  | c :: rest =>
    if isSeparator c || c.isBlank then ([], c :: rest)
    else
      let (key, after) := takeKey rest
      (c :: key, after)
  | [] => ([], [])

/-- The written value behind a key: blanks, at most one separator and blanks again are skipped. -/
def dropSeparator (rest : Text) : Text :=
  match rest.trimLeft with
  | c :: after => if isSeparator c then Text.trimLeft after else c :: after
  | [] => []

/-- The entry of a line, unless it is blank or a comment. -/
def entry? (line : Text) : Option (Text × Text) :=
  match line.trimLeft with
  | [] => none
  | c :: rest =>
    if isCommentMark c then none
    else
      let (key, after) := takeKey (c :: rest)
      some (unescape key, unescape (dropSeparator after))

/-- The table that a text spells. -/
def parse (text : Text) : Mappings :=
  ((logicalLines text).filterMap entry?).foldl (fun t e => Association.put e.1 e.2 t) []

end Table

end SchemaGate
