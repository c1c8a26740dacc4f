import SchemaGate.Proofs.Text.Lines
import SchemaGate.Proofs.Text.Newlines

/-! A text apart from its line ends.

    Between the line ends of a text stand its stretches, and those that are empty are not counted. So
    it does not matter to them how a line end is written, or how many stand in a row: they are the same
    when line ends are joined (`stretches_joinNewlines`) and when each newline is written as some other
    line end (`Respelled.stretches_eq`), even where a CR and an LF that come to stand side by side are
    one line end from then on. -/

namespace SchemaGate.Text

/-- The characters that LF, CR and CR LF are made of. -/
def isEndMark (c : CodePoint) : Bool := c = .char '\r' || c = .char '\n'

/-- What stands between the line ends of a text, where anything does. -/
def stretches (t : Text) : List Text := (t.splitOnP isEndMark).filter (!·.isEmpty)

/-- `Respelled t t'`: the texts differ in their line ends only. Each newline of `t` is one of LF, CR
and CR LF in `t'`, whatever the others are. -/
inductive Respelled : Text → Text → Prop
  | nil : Respelled [] []
  | newline {ending t t' : Text} (he : ending ∈ lineEnds) (ht : Respelled t t') :
      Respelled (.char '\n' :: t) (ending ++ t')
  | other {c : CodePoint} {t t' : Text} (hc : c ≠ .char '\n') (ht : Respelled t t') :
      Respelled (c :: t) (c :: t')

/-- Each run of carriage returns is followed by a newline or by the end of the text. -/
def ReturnsEndLines : Text → Prop
  | [] => True
  | c :: t =>
    (c = .char '\r' → ∀ d ∈ (t.dropWhile (· = .char '\r')).head?, d = .char '\n') ∧ ReturnsEndLines t

instance decidableReturnsEndLines : DecidablePred ReturnsEndLines
  | [] => isTrue trivial
  | _ :: t =>
    have := decidableReturnsEndLines t
    inferInstanceAs (Decidable (_ ∧ _))

/-! ### Stretches -/

theorem stretches_append_cons {c : CodePoint} (hc : isEndMark c = true) (a b : Text) :
    stretches (a ++ c :: b) = stretches a ++ stretches b := by
  simp only [stretches, List.splitOnP_append_cons a b hc, List.filter_append]

theorem stretches_of_plain {t : Text} (h : ∀ c ∈ t, isEndMark c = false) :
    stretches t = [t].filter (!·.isEmpty) := by
  rw [stretches, List.splitOnP_eq_singleton h]

theorem stretches_nil : stretches [] = [] := stretches_of_plain nofun

theorem stretches_cons {c : CodePoint} (hc : isEndMark c = true) (t : Text) :
    stretches (c :: t) = stretches t := by
  have h := stretches_append_cons hc [] t
  rwa [stretches_nil] at h

theorem stretches_marks_append {marks : Text} (h : ∀ c ∈ marks, isEndMark c = true) (b : Text) :
    stretches (marks ++ b) = stretches b := by
  induction marks with
  | nil => rfl
  | cons c marks ih =>
    rw [List.forall_mem_cons] at h
    rw [List.cons_append, stretches_cons h.1, ih h.2]

/-- Line ends in a row are as good as one. -/
theorem stretches_append {marks : Text} (h : ∀ c ∈ marks, isEndMark c = true) (hne : marks ≠ [])
    (a b : Text) : stretches (a ++ (marks ++ b)) = stretches a ++ stretches b := by
  obtain ⟨c, marks, rfl⟩ := List.exists_cons_of_ne_nil hne
  rw [List.forall_mem_cons] at h
  rw [List.cons_append, stretches_append_cons h.1, stretches_marks_append h.2]

theorem stretches_append_marks {marks : Text} (h : ∀ c ∈ marks, isEndMark c = true) (a : Text) :
    stretches (a ++ marks) = stretches a := by
  by_cases hne : marks = []
  · rw [hne, List.append_nil]
  · have hmarks := stretches_append h hne a []
    rwa [List.append_nil, stretches_nil, List.append_nil] at hmarks

/-! ### Line ends written in another way -/

theorem stretches_joinNewlines (t : Text) : stretches t.joinNewlines = stretches t := by
  -- a stretch begun in front of the line ends goes on behind what stands between them
  suffices h : ∀ a, stretches (a ++ t.joinNewlines) = stretches (a ++ t) from h []
  fun_induction joinNewlines t with
  | case1 rest ih =>
    intro a
    rw [stretches_append_cons rfl, stretches_append_cons rfl, stretches_cons rfl]
    exact congrArg _ (ih [])
  | case2 rest _ ih =>
    intro a
    rw [stretches_append_cons rfl, stretches_append_cons rfl]
    exact congrArg _ (ih [])
  | case3 c rest _ _ ih =>
    intro a
    simpa using ih (a ++ [c])
  | case4 => exact fun _ => rfl

theorem isEndMark_of_mem_lineEnds {ending : Text} (h : ending ∈ lineEnds) :
    ending ≠ [] ∧ ∀ c ∈ ending, isEndMark c = true := by
  simp only [lineEnds, List.mem_cons, List.not_mem_nil, or_false] at h
  rcases h with rfl | rfl | rfl <;> decide

theorem Respelled.stretches_eq {t t' : Text} (h : Respelled t t') : stretches t' = stretches t := by
  suffices hall : ∀ a, stretches (a ++ t') = stretches (a ++ t) from hall []
  induction h with
  | nil => exact fun _ => rfl
  | @newline ending t t' he ht ih =>
    intro a
    obtain ⟨hne, hmarks⟩ := isEndMark_of_mem_lineEnds he
    rw [stretches_append hmarks hne, stretches_append_cons rfl]
    exact congrArg _ (ih [])
  | @other c t t' _ ht ih =>
    intro a
    simpa using ih (a ++ [c])

/-! ### Carriage returns at the ends of lines -/

theorem ReturnsEndLines.of_append {a b : Text} (h : ReturnsEndLines (a ++ b)) : ReturnsEndLines b := by
  induction a with
  | nil => exact h
  | cons c a ih => exact ih h.2

theorem returnsEndLines_of_not_mem {t : Text} (h : .char '\r' ∉ t) : ReturnsEndLines t := by
  induction t with
  | nil => trivial
  | cons c t ih =>
    rw [List.mem_cons, not_or] at h
    exact ⟨fun hc => absurd hc.symm h.1, ih h.2⟩

/-- Up to a newline the carriage returns are those in front of it. -/
theorem ReturnsEndLines.of_newline {a b : Text} (h : ReturnsEndLines (a ++ .char '\n' :: b)) :
    ReturnsEndLines a := by
  induction a with
  | nil => trivial
  | cons c a ih =>
    refine ⟨fun hc d hd => h.1 hc d ?_, ih h.2⟩
    have hne : (a.dropWhile (· = .char '\r')).isEmpty = false := by
      cases hdrop : a.dropWhile (· = .char '\r') with
      | nil => rw [hdrop] at hd; cases hd
      | cons => rfl
    change d ∈ ((a ++ .char '\n' :: b).dropWhile (· = .char '\r')).head?
    rw [List.dropWhile_append, hne, if_neg nofun, List.head?_append, Option.mem_def.1 hd]
    rfl

/-- On one line there is nothing but carriage returns behind the first of them. -/
theorem ReturnsEndLines.eq_return {t : Text} (h : ReturnsEndLines (.char '\r' :: t))
    (hn : .char '\n' ∉ t) : ∀ c ∈ t, c = .char '\r' := by
  have hsplit := List.takeWhile_append_dropWhile (p := (· = CodePoint.char '\r')) (l := t)
  cases hdrop : t.dropWhile (· = .char '\r') with
  | nil =>
    rw [hdrop, List.append_nil] at hsplit
    rw [← hsplit]
    intro c hc
    simpa using List.all_eq_true.1 List.all_takeWhile c hc
  | cons d rest =>
    obtain rfl : d = .char '\n' := h.1 rfl d (by simp [hdrop])
    rw [← hsplit, hdrop] at hn
    exact absurd (List.mem_append_right _ List.mem_cons_self) hn

theorem return_not_mem_joinNewlines (t : Text) : .char '\r' ∉ t.joinNewlines := by
  fun_induction joinNewlines t with
  | case1 rest ih => simp [ih]
  | case2 rest _ ih => simp [ih]
  | case3 c rest _ h ih =>
    rw [List.mem_cons, not_or]
    exact ⟨fun hc => h hc.symm, ih⟩
  | case4 => exact List.not_mem_nil

end SchemaGate.Text
