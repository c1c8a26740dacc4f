import SchemaGate.Text.Classes
import SchemaGate.Text.Cut

/-!
Comments, line by line. A line is read with one flag: does it start inside a comment? What is live on
it is the text before its first opening marker and the text behind the comments that follow. Only
blanks may stand between these comments; from the first other text on, the line is taken as it is.
A comment that the line leaves open takes the text before it along.
-/

namespace SchemaGate.Detection

/-- The marker that opens a comment. -/
def opening : Text := [.char '<', .char '!', .char '-', .char '-']

/-- The marker that closes a comment. -/
def closing : Text := [.char '-', .char '-', .char '>']

/-- The marker that matters next. -/
def marker (inComment : Bool) : Text := if inComment then closing else opening

theorem marker_ne_nil (inComment : Bool) : marker inComment ≠ [] := by
  cases inComment <;> simp [marker, opening, closing]

/-- Does a comment follow, blanks aside? -/
def commentFollows (rest : Text) : Bool := startsWith opening (rest.dropWhile CodePoint.isLow)

/-- Skips comments. The text behind the last of them, or nothing if the line ends before, and
whether it ends inside a comment. -/
def skipComments (inComment : Bool) (rest : Text) : Option Text × Bool :=
  match _h : cut? (marker inComment) rest with
  | none => (none, inComment)
  | some (_, after) =>
    if inComment && !commentFollows after then (some after, false)
    else skipComments (!inComment) after
termination_by rest.length
decreasing_by exact length_lt_of_cut? (marker_ne_nil _) _h

/-- The live content of a line, if it has any, and whether the next line starts in a comment. -/
def liveContent (inComment : Bool) (line : Text) : Option Text × Bool :=
  match cut? opening line with
  | some (before, after) =>
    let (rest, flag) := skipComments inComment (opening ++ after)
    (rest.map (before ++ ·), flag)
  | none => if occursIn closing line then skipComments inComment line else (some line, inComment)

end SchemaGate.Detection
