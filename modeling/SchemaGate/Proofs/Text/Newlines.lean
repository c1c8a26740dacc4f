import SchemaGate.Text.Lines

/-! Line ends of a text that arrives in parts.

    A carriage return and a newline behind it are one line end, so a text whose last character is a
    carriage return has not shown yet how it ends. What is settled of it is the text before that
    character, which is held back (`settled_append_held`). Line ends are joined alike in the settled
    part and in what comes (`joinNewlines_settled`). -/

namespace SchemaGate.Text

/-- Is the last character a carriage return? -/
def endsInReturn (t : Text) : Bool := t.getLast? = some (.char '\r')

/-- The text without a carriage return at its very end, which may be half of a line end. -/
def settled (t : Text) : Text := if endsInReturn t then t.dropLast else t

/-- The carriage return that is held back, if one is. -/
def held (isHeld : Bool) : Text := if isHeld then [.char '\r'] else []

theorem endsInReturn_cons {c : CodePoint} {t : Text} (h : endsInReturn t = true) :
    endsInReturn (c :: t) = true := by
  have hne : t ≠ [] := by
    rintro rfl
    cases h
  rwa [endsInReturn, List.getLast?_cons_of_ne_nil hne]

theorem endsInReturn_append {b : Text} (h : b ≠ []) (a : Text) :
    endsInReturn (a ++ b) = endsInReturn b := by
  rw [endsInReturn, endsInReturn, List.getLast?_append, Option.or_of_isSome]
  exact List.getLast?_isSome.2 h

theorem settled_append {b : Text} (h : b ≠ []) (a : Text) : settled (a ++ b) = a ++ settled b := by
  rw [settled, settled, endsInReturn_append h]
  split
  · exact List.dropLast_append_of_ne_nil h
  · rfl

/-- A text is what is settled of it and what is held back. -/
theorem settled_append_held (t : Text) : settled t ++ held (endsInReturn t) = t := by
  cases h : endsInReturn t with
  | false => rw [settled, h, if_neg nofun, held, if_neg nofun, List.append_nil]
  | true =>
    obtain ⟨front, rfl⟩ := List.getLast?_eq_some_iff.1 (of_decide_eq_true h)
    rw [settled, if_pos h, List.dropLast_concat]
    rfl

/-- More of the text settles what was held back. -/
theorem settled_append_held_append (t : Text) {more : Text} (h : more ≠ []) :
    settled t ++ settled (held (endsInReturn t) ++ more) = settled (t ++ more) := by
  rw [← settled_append (by simp [h]), ← List.append_assoc, settled_append_held]

/-- Without a carriage return every line end is a newline already. -/
theorem joinNewlines_of_not_mem {t : Text} (h : .char '\r' ∉ t) : joinNewlines t = t := by
  fun_induction joinNewlines t with
  | case1 rest => exact absurd List.mem_cons_self h
  | case2 rest => exact absurd List.mem_cons_self h
  | case3 c rest _ _ ih => rw [ih fun hmem => h (List.mem_cons_of_mem c hmem)]
  | case4 => rfl

/-- Line ends are joined in two parts alike unless a carriage return and its newline are divided. -/
theorem joinNewlines_append {a b : Text}
    (h : endsInReturn a = true → b.head? ≠ some (.char '\n')) :
    joinNewlines (a ++ b) = joinNewlines a ++ joinNewlines b := by
  fun_induction joinNewlines a with
  | case1 rest ih =>
    rw [List.cons_append, List.cons_append, joinNewlines,
      ih fun hr => h (endsInReturn_cons (endsInReturn_cons hr)), List.cons_append]
  | case2 rest hrest ih =>
    have hno : ∀ t, rest ++ b ≠ .char '\n' :: t := by
      rintro t ht
      cases rest with
      | nil => exact h rfl (by rw [List.nil_append] at ht; rw [ht]; rfl)
      | cons c rest =>
        cases ht
        exact hrest rest rfl
    rw [List.cons_append, joinNewlines.eq_2 _ hno, ih fun hr => h (endsInReturn_cons hr),
      List.cons_append]
  | case3 c rest hpair hreturn ih =>
    rw [List.cons_append, joinNewlines.eq_3 _ _ (fun _ hc _ => hreturn hc) hreturn,
      ih fun hr => h (endsInReturn_cons hr), List.cons_append]
  | case4 => rfl

/-- No line end is divided between what is settled and what comes. -/
theorem joinNewlines_settled (t : Text) {more : Text} (h : more ≠ []) :
    joinNewlines (settled t) ++ joinNewlines (settled (held (endsInReturn t) ++ more)) =
      joinNewlines (settled (t ++ more)) := by
  rw [← settled_append_held_append t h, joinNewlines_append]
  intro hends
  cases ht : endsInReturn t with
  | false =>
    rw [settled, ht, if_neg nofun, ht] at hends
    cases hends
  | true =>
    rw [held, if_pos rfl, settled_append h]
    simp

/-- A carriage return that nothing follows is a line end of its own. -/
theorem joinNewlines_held (t : Text) :
    joinNewlines (settled t) ++ (if endsInReturn t then [.char '\n'] else []) = joinNewlines t := by
  conv => rhs; rw [← settled_append_held t]
  cases ht : endsInReturn t with
  | false => simp [held]
  | true =>
    rw [joinNewlines_append fun _ => by simp [held]]
    rfl

end SchemaGate.Text
