import SchemaGate.Detection.Comment
import SchemaGate.Mode

/-!
The verdict of the first lines. A document type declaration outside comments means validation
against a DTD; the first opening tag without one before it means validation against a schema, since
the declaration always precedes the root element. The lines are folded over a flag and a verdict, and
a verdict once reached stays.
-/

namespace SchemaGate.Detection

/-- The word that a document type declaration starts with. -/
def doctype : Text :=
  [.char 'D', .char 'O', .char 'C', .char 'T', .char 'Y', .char 'P', .char 'E']

/-- Is there any character that is not a blank? -/
def hasText (content : Text) : Bool := !content.isBlank

/-- Does the content speak of a document type? -/
def hasDoctype (content : Text) : Bool := occursIn doctype content

/-- Is the first `<` of the content followed by a letter? Inside a comment nothing opens a tag. -/
def hasOpeningTag (inComment : Bool) (content : Text) : Bool :=
  !inComment &&
    match content.dropWhile (· ≠ .char '<') with
    | _ :: next :: _ => next.isLetter
    | _ => false

/-- What one line decides, given its live content and whether it ends inside a comment. -/
def lineVerdict (inComment : Bool) : Option Text → Option Mode
  | none => none
  | some content =>
    if inComment || !hasText content then none
    else if hasDoctype content then some .dtd
    else if hasOpeningTag inComment content then some .xsd
    else none

/-- The state between two lines. -/
structure Scan where
  inComment : Bool
  verdict : Option Mode
  deriving DecidableEq

namespace Scan

/-- Nothing read. -/
def start : Scan := ⟨false, none⟩

/-- Reads a line without its end. -/
def readLine (s : Scan) (line : Text) : Scan :=
  match s.verdict with
  | some _ => s
  | none =>
    let (content, inComment) := liveContent s.inComment line
    ⟨inComment, lineVerdict inComment content⟩

/-- Reads lines one after another. -/
def readLines (s : Scan) (lines : List Text) : Scan := lines.foldl readLine s

/-- The mode when there are no more lines. -/
def mode (s : Scan) : Mode := s.verdict.getD .xsd

end Scan

/-- The mode that the lines of a document call for. -/
def modeOfLines (lines : List Text) : Mode := (Scan.start.readLines lines).mode

end SchemaGate.Detection
