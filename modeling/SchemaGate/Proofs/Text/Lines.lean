import SchemaGate.Text.Lines

/-! The lines of a table.

    A table is cut at line ends of its own, more of them than a document has. A line that holds no
    such end is cut off at the LF, CR or CR LF behind it. Behind a text whose last line has ended
    (`EndsLine`) the lines are those of what is put there, where only an LF that belongs to a CR does not
    make a line of its own. -/

namespace SchemaGate.Text

/-- LF, CR and CR LF. -/
def lineEnds : List Text := [[.char '\n'], [.char '\r'], [.char '\r', .char '\n']]

/-- Is there no line at the end of the text that has begun and not ended? -/
def EndsLine (t : Text) : Prop := ∀ c ∈ t.getLast?, c.isLineEnd = true

instance (t : Text) : Decidable (EndsLine t) := inferInstanceAs (Decidable (∀ c ∈ t.getLast?, _))

theorem takeLine_append {line : Text} (h : ∀ c ∈ line, c.isLineEnd = false) (rest : Text) :
    takeLine (line ++ rest) = (line ++ (takeLine rest).1, (takeLine rest).2) := by
  induction line with
  | nil => rfl
  | cons c line ih =>
    rw [List.forall_mem_cons] at h
    rw [List.cons_append, takeLine, if_neg (by simp [h.1]), ih h.2, List.cons_append]
    rintro _ rfl
    cases h.1

/-- A line ends at a CR in front of anything but an LF, which would belong to it. -/
theorem takeLine_lineEnd {ending rest : Text} (h : ending ∈ lineEnds)
    (hr : rest.head? ≠ some (.char '\n')) : takeLine (ending ++ rest) = ([], rest) := by
  simp only [lineEnds, List.mem_cons, List.not_mem_nil, or_false] at h
  rcases h with rfl | rfl | rfl
  · rfl
  · rw [List.singleton_append, takeLine, if_pos (by rfl)]
    rintro _ - rfl
    exact hr rfl
  · rfl

theorem splitLines_of_ne_nil {t : Text} (h : t ≠ []) :
    splitLines t = (takeLine t).1 :: splitLines (takeLine t).2 := by
  obtain ⟨c, t, rfl⟩ := List.exists_cons_of_ne_nil h
  rw [splitLines]

theorem takeLine_length_lt_of_ne_nil {t : Text} (h : t ≠ []) : (takeLine t).2.length < t.length := by
  obtain ⟨c, t, rfl⟩ := List.exists_cons_of_ne_nil h
  exact takeLine_length_lt c t

theorem splitLines_line {line : Text} (h : ∀ c ∈ line, c.isLineEnd = false) (hne : line ≠ []) :
    splitLines line = [line] := by
  have htake := takeLine_append h []
  rw [List.append_nil, takeLine, List.append_nil] at htake
  rw [splitLines_of_ne_nil hne, htake, splitLines]

/-- A written line is the first one, and the others are those of what follows its end. -/
theorem splitLines_append {line ending rest : Text} (h : ∀ c ∈ line, c.isLineEnd = false)
    (he : ending ∈ lineEnds) (hr : rest.head? ≠ some (.char '\n')) :
    splitLines (line ++ (ending ++ rest)) = line :: splitLines rest := by
  have hne : line ++ (ending ++ rest) ≠ [] := by
    rintro hn
    rw [(List.append_eq_nil_iff.1 (List.append_eq_nil_iff.1 hn).2).1] at he
    revert he
    decide
  rw [splitLines_of_ne_nil hne, takeLine_append h, takeLine_lineEnd he hr, List.append_nil]

/-! ### Lines behind one another -/

theorem head?_append_ne {line : Text} (h : ∀ c ∈ line, c.isLineEnd = false) (hne : line ≠ []) (rest : Text) :
    (line ++ rest).head? ≠ some (.char '\n') := by
  obtain ⟨c, line, rfl⟩ := List.exists_cons_of_ne_nil hne
  rintro ⟨⟩
  cases h _ List.mem_cons_self

theorem takeLine_of_isLineEnd {rest : Text} (h : ∀ c ∈ rest.head?, c.isLineEnd = true) :
    (takeLine rest).1 = [] := by
  cases rest with
  | nil => rfl
  | cons c rest =>
    have hc : c.isLineEnd = true := h c rfl
    rw [takeLine.eq_def]
    split
    · rfl
    · rfl
    · next heq =>
      obtain ⟨rfl, rfl⟩ := List.cons.inj heq
      rw [if_pos hc]

/-- A line reaches to the first line end. -/
theorem splitLines_line_append {line rest : Text} (h : ∀ c ∈ line, c.isLineEnd = false)
    (hr : ∀ c ∈ rest.head?, c.isLineEnd = true) (hne : line ++ rest ≠ []) :
    splitLines (line ++ rest) = line :: splitLines (takeLine rest).2 := by
  rw [splitLines_of_ne_nil hne, takeLine_append h, takeLine_of_isLineEnd hr, List.append_nil]

theorem takeLine_suffix (t : Text) : (takeLine t).2 <:+ t := by
  fun_induction takeLine t with
  | case1 => exact List.suffix_rfl
  | case2 rest => exact (List.suffix_cons _ rest).trans (List.suffix_cons _ _)
  | case3 c rest => exact List.suffix_cons c rest
  | case4 c rest hpair hc line after heq ih =>
    rw [heq] at ih
    exact ih.trans (List.suffix_cons c rest)

theorem prefix_takeLine (t : Text) : (takeLine t).1 <+: t := by
  fun_induction takeLine t with
  | case1 => exact List.prefix_rfl
  | case2 rest => exact List.nil_prefix
  | case3 c rest => exact List.nil_prefix
  | case4 c rest hpair hc line after heq ih =>
    rw [heq] at ih
    exact List.cons_prefix_cons.2 ⟨rfl, ih⟩

theorem isLineEnd_of_mem_takeLine {t : Text} {c : CodePoint} (h : c ∈ (takeLine t).1) :
    c.isLineEnd = false := by
  fun_induction takeLine t with
  | case1 => cases h
  | case2 rest => cases h
  | case3 d rest => cases h
  | case4 d rest hpair hd line after heq ih =>
    rw [heq] at ih
    rcases List.mem_cons.1 h with rfl | h
    · simpa using hd
    · exact ih h

/-- A line holds characters of the text, and none that ends a line. -/
theorem of_mem_splitLines {t line : Text} (h : line ∈ splitLines t) :
    ∀ c ∈ line, c ∈ t ∧ c.isLineEnd = false := by
  by_cases hne : t = []
  · rw [hne, splitLines] at h
    cases h
  · have hlt := takeLine_length_lt_of_ne_nil hne
    rw [splitLines_of_ne_nil hne, List.mem_cons] at h
    intro c hc
    rcases h with rfl | h
    · exact ⟨(prefix_takeLine t).subset hc, isLineEnd_of_mem_takeLine hc⟩
    · obtain ⟨hmem, hend⟩ := of_mem_splitLines h c hc
      exact ⟨(takeLine_suffix t).subset hmem, hend⟩
termination_by t.length

theorem endsLine_append {ending : Text} (h : ending ∈ lineEnds) (line : Text) :
    EndsLine (line ++ ending) := by
  simp only [lineEnds, List.mem_cons, List.not_mem_nil, or_false] at h
  rw [EndsLine, List.getLast?_append]
  rcases h with rfl | rfl | rfl <;> (rintro _ ⟨⟩; rfl)

theorem getLast?_of_suffix {rest t : Text} {c : CodePoint} (h : rest <:+ t) (hc : rest.getLast? = some c) :
    t.getLast? = some c := by
  obtain ⟨front, rfl⟩ := h
  rw [List.getLast?_append, hc, Option.some_or]

theorem EndsLine.of_suffix {rest t : Text} (h : EndsLine t) (hrest : rest <:+ t) : EndsLine rest :=
  fun c hc => h c (getLast?_of_suffix hrest hc)

/-- A line that is ended stays what it is in front of other text, unless that text begins with an LF
that belongs to a CR. -/
theorem takeLine_append_of_mem {t more : Text} (h : ∃ c ∈ t, c.isLineEnd = true)
    (hm : t.getLast? = some (.char '\r') → more.head? ≠ some (.char '\n')) :
    takeLine (t ++ more) = ((takeLine t).1, (takeLine t).2 ++ more) := by
  fun_induction takeLine t with
  | case1 => cases h.choose_spec.1
  | case2 rest => rfl
  | case3 c rest hpair hc =>
    rw [List.cons_append, takeLine, if_pos hc]
    intro rest' hreturn heq
    cases rest with
    | nil =>
      rw [List.nil_append] at heq
      exact hm (by rw [hreturn]; rfl) (by rw [heq]; rfl)
    | cons d rest =>
      obtain ⟨rfl, -⟩ := List.cons.inj heq
      exact hpair _ hreturn rfl
  | case4 c rest hpair hc line after heq ih =>
    have hrest : ∃ d ∈ rest, d.isLineEnd = true := by
      obtain ⟨d, hd, hend⟩ := h
      exact ⟨d, (List.mem_cons.1 hd).resolve_left fun heq => hc (heq ▸ hend), hend⟩
    have htake := ih hrest fun hlast => hm (getLast?_of_suffix (List.suffix_cons c rest) hlast)
    rw [heq] at htake
    rw [List.cons_append, takeLine, if_neg hc, htake]
    rintro _ rfl -
    exact hc rfl

theorem EndsLine.exists_mem {t : Text} (h : EndsLine t) (hne : t ≠ []) : ∃ c ∈ t, c.isLineEnd = true :=
  ⟨t.getLast hne, List.getLast_mem hne, h _ (List.getLast?_eq_some_getLast hne)⟩

/-- The lines of a text whose last line has ended are followed by those of other text, unless an LF
that belongs to a CR stands between them. -/
theorem EndsLine.splitLines_append_of {before more : Text} (h : EndsLine before)
    (hm : before.getLast? = some (.char '\r') → more.head? ≠ some (.char '\n')) :
    splitLines (before ++ more) = splitLines before ++ splitLines more := by
  by_cases hne : before = []
  · rw [hne, splitLines]
    rfl
  · have hlt := takeLine_length_lt_of_ne_nil hne
    have hsuffix := takeLine_suffix before
    rw [splitLines_of_ne_nil hne, splitLines_of_ne_nil (List.append_ne_nil_of_left_ne_nil hne more),
      takeLine_append_of_mem (h.exists_mem hne) hm,
      (h.of_suffix hsuffix).splitLines_append_of fun hlast => hm (getLast?_of_suffix hsuffix hlast),
      List.cons_append]
termination_by before.length

theorem EndsLine.splitLines_append {before more : Text} (h : EndsLine before)
    (hm : more.head? ≠ some (.char '\n')) :
    splitLines (before ++ more) = splitLines before ++ splitLines more :=
  h.splitLines_append_of fun _ => hm

/-- Of CR and LF the CR alone ends the line too, and no line is lost with the LF. -/
theorem splitLines_return_newline (before more : Text) :
    splitLines (before ++ (.char '\r' :: .char '\n' :: more)) =
      splitLines (before ++ [.char '\r']) ++ splitLines more := by
  rw [splitLines_of_ne_nil (by simp : before ++ (.char '\r' :: .char '\n' :: more) ≠ []),
    splitLines_of_ne_nil (by simp : before ++ [.char '\r'] ≠ [])]
  by_cases h : ∃ c ∈ before, c.isLineEnd = true
  · have hlt := takeLine_length_lt_of_ne_nil (List.ne_nil_of_mem h.choose_spec.1)
    rw [takeLine_append_of_mem h (by simp), takeLine_append_of_mem h (by simp),
      splitLines_return_newline _ more, List.cons_append]
  · have hline : ∀ c ∈ before, c.isLineEnd = false := by simpa using h
    have hpair : takeLine (.char '\r' :: .char '\n' :: more) = ([], more) := rfl
    have hreturn : takeLine [.char '\r'] = ([], []) := rfl
    rw [takeLine_append hline, takeLine_append hline, hpair, hreturn, splitLines.eq_1]
    rfl
termination_by before.length

end SchemaGate.Text
