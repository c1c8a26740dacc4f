import SchemaGate.Proofs.Detection.LineReading
import SchemaGate.Proofs.Detection.Lines

/-! The flag of a text: does it end inside a comment?

    `endsInside` follows the markers character by character, from left to right and over any number
    of lines. No marker holds a character of a line end, so each line can be read on its own with the
    flag that the lines before it leave (`standsIn_of_documentLines`). -/

namespace SchemaGate.Detection

/-- Does a text that starts inside or outside a comment end inside one? -/
def endsInside : Bool → Text → Bool
  | false, .char '<' :: .char '!' :: .char '-' :: .char '-' :: t => endsInside true t
  | true, .char '-' :: .char '-' :: .char '>' :: t => endsInside false t
  | inside, _ :: t => endsInside inside t
  | inside, [] => inside

/-- The flag behind each line. -/
def flagsBehind : Bool → List Text → List Bool
  | _, [] => []
  | inside, line :: rest => endsInside inside line :: flagsBehind (endsInside inside line) rest

/-! ### Markers -/

theorem endsInside_marker (inside : Bool) (t : Text) :
    endsInside inside (marker inside ++ t) = endsInside (!inside) t := by
  cases inside <;> rfl

theorem endsInside_cons {inside : Bool} {c : CodePoint} {t : Text}
    (h : ¬ marker inside <+: c :: t) : endsInside inside (c :: t) = endsInside inside t := by
  rw [endsInside.eq_def]
  split
  · next heq => exact absurd ⟨_, heq.symm⟩ h
  · next heq => exact absurd ⟨_, heq.symm⟩ h
  · next heq => cases heq; rfl
  · next heq => cases heq

theorem endsInside_of_not_marker {inside : Bool} {t : Text} (h : ¬ marker inside <:+: t) :
    endsInside inside t = inside := by
  induction t with
  | nil => cases inside <;> rfl
  | cons c t ih =>
    rw [List.infix_cons_iff, not_or] at h
    rw [endsInside_cons h.1, ih h.2]

theorem endsInside_append_marker (inside : Bool) {p : Text} (h : ¬ marker inside <:+: p)
    (t : Text) : endsInside inside (p ++ (marker inside ++ t)) = endsInside (!inside) t := by
  induction p with
  | nil => exact endsInside_marker inside t
  | cons c p ih =>
    have hstart := not_prefix_append (unbordered_marker inside) h t
    rw [List.infix_cons_iff, not_or] at h
    rw [List.cons_append, endsInside_cons hstart, ih h.2]

theorem endsInside_of_not_opening {t : Text} (h : ¬ opening <:+: t) : endsInside false t = false :=
  endsInside_of_not_marker h

theorem endsInside_of_not_closing {t : Text} (h : ¬ closing <:+: t) : endsInside true t = true :=
  endsInside_of_not_marker h

theorem endsInside_opening {p : Text} (h : ¬ opening <:+: p) (t : Text) :
    endsInside false (p ++ (opening ++ t)) = endsInside true t :=
  endsInside_append_marker false h t

theorem endsInside_closing {body : Text} (h : ¬ closing <:+: body) (t : Text) :
    endsInside true (body ++ (closing ++ t)) = endsInside false t :=
  endsInside_append_marker true h t

theorem Closes.endsInside {r : Text} (h : Closes r) (s : Text) :
    endsInside true (r ++ s) = endsInside false s := by
  induction h with
  | one hb => rw [List.append_assoc, endsInside_closing hb]
  | more hb hg _ ih =>
    simp only [List.append_assoc]
    rw [endsInside_closing hb, endsInside_opening hg.not_opening, ih]

theorem LeavesOpen.endsInside {t : Text} (h : LeavesOpen t) : endsInside true t = true := by
  induction h with
  | one hb => exact endsInside_of_not_closing hb
  | more hb hg _ ih => rw [endsInside_closing hb, endsInside_opening hg.not_opening, ih]

/-- A character that the next marker does not hold divides the text before from the one behind. -/
theorem endsInside_skip {d : CodePoint} {inside : Bool} (hd : d ∉ marker inside) {a : Text}
    (h : ¬ marker inside <:+: a) (b : Text) :
    endsInside inside (a ++ d :: b) = endsInside inside b := by
  induction a with
  | nil =>
    exact endsInside_cons fun hp =>
      marker_ne_nil inside (List.prefix_nil.1 (prefix_of_not_mem hp hd))
  | cons c a ih =>
    rw [List.infix_cons_iff, not_or] at h
    have hstart : ¬ marker inside <+: c :: (a ++ d :: b) := fun hp =>
      h.1 (prefix_of_not_mem (x := c :: a) hp hd)
    rw [List.cons_append, endsInside_cons hstart, ih h.2]

/-! ### Line ends -/

/-- Characters that divide a text for its flag: those that no marker holds. -/
def Divides (d : CodePoint) : Prop := ∀ inside, d ∉ marker inside

theorem divides_newline : Divides (.char '\n') := by
  rintro (_ | _) <;> decide

theorem divides_return : Divides (.char '\r') := by
  rintro (_ | _) <;> decide

/-- What stands behind such a character is read on its own. -/
theorem Divides.endsInside_append {d : CodePoint} (hd : Divides d) (inside : Bool) (a b : Text) :
    endsInside inside (a ++ d :: b) = endsInside (endsInside inside a) b := by
  by_cases hm : marker inside <:+: a
  · obtain ⟨p, t, ha, hp⟩ := exists_cut (marker_ne_nil inside) hm
    have hlt : t.length < a.length := by
      have := List.length_pos_iff.2 (marker_ne_nil inside)
      rw [ha, List.length_append, List.length_append]
      omega
    rw [ha, List.append_assoc, List.append_assoc, endsInside_append_marker inside hp,
      endsInside_append_marker inside hp, hd.endsInside_append]
  · rw [endsInside_of_not_marker hm, endsInside_skip (hd inside) hm]
termination_by a.length

/-- The characters of line ends change no flag. -/
theorem endsInside_dropLineEnd (inside : Bool) (line : Text) :
    endsInside inside (dropLineEnd line) = endsInside inside line := by
  obtain ⟨ends, hline, hends⟩ := exists_dropped line
  conv => rhs; rw [hline]
  match ends, hends with
  | [], _ => rw [List.append_nil]
  | d :: ends, hends =>
    have hd : Divides d := by
      rcases hends d (by simp) with rfl | rfl
      · exact divides_return
      · exact divides_newline
    have hno : ¬ marker (endsInside inside (dropLineEnd line)) <:+: ends := fun hi => by
      have hdash : CodePoint.char '-' ∈ marker (endsInside inside (dropLineEnd line)) := by
        cases endsInside inside (dropLineEnd line) <;> decide
      rcases hends _ (List.mem_cons_of_mem d (hi.subset hdash)) with h | h <;> cases h
    rw [hd.endsInside_append, endsInside_of_not_marker hno]

/-- The flag at a line of a text is the one that the lines before it leave, one after another. -/
theorem endsInside_flatten (inside : Bool) (raws : List Text) (t : Text) :
    endsInside inside ((raws.map (· ++ [.char '\n'])).flatten ++ t) =
      endsInside ((raws.map dropLineEnd).foldl endsInside inside) t := by
  induction raws generalizing inside with
  | nil => rfl
  | cons raw raws ih =>
    rw [List.map_cons, List.flatten_cons, List.append_assoc, List.append_assoc,
      List.singleton_append, divides_newline.endsInside_append, ih, List.map_cons, List.foldl_cons,
      endsInside_dropLineEnd]

/-- The text holds the line, and in front of it the text's flag is `inside`. -/
def StandsIn (text : Text) (inside : Bool) (line : Text) : Prop :=
  ∃ front back, text = front ++ (line ++ back) ∧
    ∀ t, endsInside false (front ++ t) = endsInside inside t

theorem standsIn_of_documentLines {text line : Text} {before after : List Text}
    (h : documentLines text = before ++ line :: after) :
    StandsIn text (before.foldl endsInside false) line := by
  obtain ⟨raws, back, rfl, htext⟩ := exists_split_documentLines h
  exact ⟨_, back, htext, endsInside_flatten false raws⟩

end SchemaGate.Detection
