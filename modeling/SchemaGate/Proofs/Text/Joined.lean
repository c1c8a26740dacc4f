import SchemaGate.Text.CodePoint

/-! Lines that are joined.

    Newlines stand between the lines and nowhere else, so a joined text is its first line, and then each
    other line behind a newline of its own. -/

namespace SchemaGate.Text

theorem join_singleton (line : Text) : join "\n" [line] = line := by
  simp [join]

theorem join_cons (line next : Text) (rest : List Text) :
    join "\n" (line :: next :: rest) = line ++ .char '\n' :: join "\n" (next :: rest) := by
  simp [join, ofString]

theorem join_eq_append (line : Text) (rest : List Text) :
    join "\n" (line :: rest) = line ++ rest.flatMap fun l => .char '\n' :: l := by
  induction rest generalizing line with
  | nil => rw [join_singleton, List.flatMap_nil, List.append_nil]
  | cons next rest ih => rw [join_cons, ih, List.flatMap_cons, List.cons_append]

end SchemaGate.Text
