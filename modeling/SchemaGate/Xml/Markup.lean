import SchemaGate.Xml.Cursor

/-!
Markup that may stand nearly everywhere: comments and processing instructions.
-/

namespace SchemaGate.Xml.Scanner

/-- Reads the rest of a comment, behind its opening mark. Two hyphens in a row end it. -/
def comment : Scanner Text := do
  let cs ← upTo "--"
  expect ">"
  return Text.ofChars cs

/-- Targets in the reserved range that are known. -/
def knownTargets : List String := ["xml-stylesheet", "xml-model"]

/-- Looks at the target of an instruction: names that start with `xml` are reserved, and colons are
complained of. -/
def inspectTarget (target : List Char) : Scanner Unit := do
  if (target.take 3).map Char.toLower = "xml".toList then
    if target.length = 3 then fail
    if knownTargets.contains (String.ofList target) then return ()
    warn
  if target.contains ':' then complain

/-- Reads the rest of a processing instruction, behind its opening mark: target and content. -/
def instruction : Scanner (Text × Text) := do
  let target ← need name?
  inspectTarget target
  if ← accept "?>" then return (Text.ofChars target, [])
  someSpaces
  let content ← upTo "?>"
  return (Text.ofChars target, Text.ofChars content)

/-- Skips white space, comments and instructions. -/
def miscellany : Nat → Scanner Unit
  | 0 => return ()
  | fuel + 1 => do
    let _ ← spaces
    if ← accept "<!--" then
      let _ ← comment
      miscellany fuel
    else if ← accept "<?" then
      let _ ← instruction
      miscellany fuel

end SchemaGate.Xml.Scanner
