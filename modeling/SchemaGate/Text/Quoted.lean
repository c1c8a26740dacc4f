import SchemaGate.Text.Classes

/-!
Quoted text, as messages show it: between apostrophes, or between quotation marks when the text
holds an apostrophe and no quotation mark. The quote and the backslash are escaped, and so is every
character that is not printable, with the shortest of `\t \n \r`, two, four or eight hexadecimal
digits that fits.
-/

namespace SchemaGate.Text

/-- One character inside the given quotes. -/
def quoteChar (quote : CodePoint) (c : CodePoint) : Text :=
  let n := c.value
  if c = quote ∨ c = .char '\\' then [.char '\\', c]
  else if n = 9 then [.char '\\', .char 't']
  else if n = 10 then [.char '\\', .char 'n']
  else if n = 13 then [.char '\\', .char 'r']
  else if c.isPrintable then [c]
  else if n < 0x100 then [.char '\\', .char 'x'] ++ hexDigits 2 n
  else if n < 0x10000 then [.char '\\', .char 'u'] ++ hexDigits 4 n
  else [.char '\\', .char 'U'] ++ hexDigits 8 n

/-- The mark a text is quoted with. -/
def quoteMark (t : Text) : CodePoint :=
  if t.contains (.char '\'') && !t.contains (.char '"') then .char '"' else .char '\''

/-- The text in quotes. -/
def quoted (t : Text) : Text :=
  let mark := quoteMark t
  mark :: t.flatMap (quoteChar mark) ++ [mark]

/-- A list of texts in quotes, between square brackets. -/
def quotedList (ts : List Text) : Text := "[" ++ join ", " (ts.map quoted) ++ "]"

/-- A table of texts in quotes, between braces. -/
def quotedTable (pairs : List (Text × Text)) : Text :=
  "\x7b" ++ join ", " (pairs.map fun (k, v) => quoted k ++ ": " ++ quoted v)
    ++ "\x7d"

end SchemaGate.Text
