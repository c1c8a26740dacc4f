import SchemaGate.Text.Classes

/-!
Lines. Two rules are in use. A table is cut at every line boundary of Unicode, the vertical tab and
the separators of ASCII included; a document is cut at newlines only, once each CR and CR LF has
been read as a newline.
-/

namespace SchemaGate.CodePoint

/-- Characters that end a line of a table, apart from the pair CR LF. -/
def isLineEnd (c : CodePoint) : Bool :=
  within [(0xA, 0xD), (0x1C, 0x1E), (0x85, 0x85), (0x2028, 0x2029)] c.value

end SchemaGate.CodePoint

namespace SchemaGate.Text

/-- The first line without its end, and what follows it. -/
def takeLine : Text → Text × Text
  | [] => ([], [])
  | .char '\r' :: .char '\n' :: rest => ([], rest)
  | c :: rest =>
    if c.isLineEnd then ([], rest)
    else
      let (line, after) := takeLine rest
      (c :: line, after)

theorem takeLine_length (t : Text) : (takeLine t).2.length ≤ t.length := by
  fun_induction takeLine t <;> simp_all <;> omega

theorem takeLine_length_lt (c : CodePoint) (t : Text) :
    (takeLine (c :: t)).2.length < (c :: t).length := by
  rw [takeLine.eq_def]
  split
  · simp_all
  · simp_all only [List.cons.injEq, List.length_cons]; omega
  · next h =>
    split
    · simp_all
    · have := takeLine_length t
      simp_all only [List.cons.injEq, List.length_cons]; omega

/-- The lines of a text without their ends. A text that ends with a line end has no further line. -/
def splitLines : Text → List Text
  | [] => []
  | c :: t => (takeLine (c :: t)).1 :: splitLines (takeLine (c :: t)).2
termination_by t => t.length
decreasing_by exact takeLine_length_lt c t

/-- Every CR LF and every other CR as one newline. -/
def joinNewlines : Text → Text
  | .char '\r' :: .char '\n' :: rest => .char '\n' :: joinNewlines rest
  | .char '\r' :: rest => .char '\n' :: joinNewlines rest
  | c :: rest => c :: joinNewlines rest
  | [] => []

end SchemaGate.Text
