import SchemaGate.Proofs.Detection.Removal

/-! Lines that end the scan of a document without comments.

    Without comment markers every line is live, so the mode is read off the lines themselves. Of the
    tags of a line only one that starts at the line's first `<` is noticed: where it is, nothing behind
    that line counts. A tag behind another `<` of its line, that of an XML declaration for instance, is
    passed over, and the lines that follow go on deciding (`mode_behind_first_tag`). -/

namespace SchemaGate.Detection

/-- No marker of a comment stands in the text. -/
def MarkerFree (t : Text) : Prop := ∀ inside, ¬ marker inside <:+: t

/-- Somewhere in the text a `<` is followed by a letter. -/
def HoldsTag (t : Text) : Prop :=
  ∃ before x after, t = before ++ .char '<' :: x :: after ∧ x.isLetter = true

/-! ### Documents without comments -/

theorem MarkerFree.of_mem_documentLines {t line : Text} (h : MarkerFree t)
    (hline : line ∈ documentLines t) : MarkerFree line := by
  intro inside hmarker
  obtain ⟨before, after, hlines⟩ := List.append_of_mem hline
  obtain ⟨raws, rest, -, rfl⟩ := exists_split_documentLines hlines
  exact h inside (hmarker.trans (List.infix_append' _ _ _))

/-- Every line is live as it stands. -/
theorem threaded_of_markerFree {lines : List Text} (h : ∀ l ∈ lines, MarkerFree l) (inside : Bool) :
    threaded inside lines = lines.map fun l => (some l, inside) := by
  induction lines with
  | nil => rfl
  | cons line rest ih =>
    rw [List.forall_mem_cons] at h
    have hread : Reads inside line (some line) inside := .unmarked (h.1 false) (h.1 true)
    rw [threaded, hread.liveContent_eq, ih h.2, List.map_cons]

theorem modeOfText_of_markerFree {t : Text} (h : MarkerFree t) :
    (DoctypeFirst (documentLines t) ∧ modeOfText t = .dtd) ∨
      (¬ DoctypeFirst (documentLines t) ∧ modeOfText t = .xsd) := by
  rw [doctypeFirst_iff, ← threaded_of_markerFree (fun _ hl => h.of_mem_documentLines hl)]
  exact modeOfLines_cases _

/-! ### Lines in front of others -/

theorem doctypeFirst_cons_iff {t : Text} {texts : List Text} :
    DoctypeFirst (t :: texts) ↔ doctype <:+: t ∨ (¬ TagFirst t ∧ DoctypeFirst texts) := by
  rw [doctypeFirst_iff, List.map_cons, declaresFirst_cons_iff, ← doctypeFirst_iff]
  simp [Declares, OpensTag]

/-- Lines that do not speak of a document type leave it to the others, unless a tag opens one. -/
theorem doctypeFirst_append_iff {a : List Text} (h : ∀ l ∈ a, ¬ doctype <:+: l) (b : List Text) :
    DoctypeFirst (a ++ b) ↔ (∀ l ∈ a, ¬ TagFirst l) ∧ DoctypeFirst b := by
  induction a with
  | nil => simp
  | cons l a ih =>
    rw [List.forall_mem_cons] at h
    rw [List.cons_append, doctypeFirst_cons_iff, ih h.2, List.forall_mem_cons]
    simp only [h.1, false_or, and_assoc]

/-- In a document without comments, lines up to one that do not speak of a document type: if the first
`<` of that line opens a tag, the mode is XSD whatever follows. In general it is DTD exactly if the
first `<` of none of these lines opens a tag and the lines behind them declare a document type before
one of theirs does; else it is XSD. -/
theorem mode_behind_first_tag (d : Detector) {text line : Text} {before after : List Text}
    (hlines : documentLines text = before ++ line :: after) (hmarks : MarkerFree text)
    (hword : ∀ l ∈ before ++ [line], ¬ doctype <:+: l) :
    (TagFirst line → textOutcome d text = .ok .xsd) ∧
    (textOutcome d text = .ok .dtd ↔
      (∀ l ∈ before ++ [line], ¬ TagFirst l) ∧ DoctypeFirst after) ∧
    (¬ ((∀ l ∈ before ++ [line], ¬ TagFirst l) ∧ DoctypeFirst after) →
      textOutcome d text = .ok .xsd) := by
  have hfirst : DoctypeFirst (documentLines text) ↔
      (∀ l ∈ before ++ [line], ¬ TagFirst l) ∧ DoctypeFirst after := by
    rw [hlines, List.append_cons, doctypeFirst_append_iff hword]
  have hmode : textOutcome d text = .ok (modeOfText text) := textOutcome_eq _ _
  rw [hmode, ← hfirst]
  rcases modeOfText_of_markerFree hmarks with ⟨hd, hm⟩ | ⟨hd, hm⟩ <;> rw [hm]
  · refine ⟨fun htag => ?_, iff_of_true rfl hd, fun hn => absurd hd hn⟩
    exact absurd htag ((hfirst.1 hd).1 line (by simp))
  · exact ⟨fun _ => rfl, iff_of_false (by simp) hd, fun _ => rfl⟩

def xmlDeclaration : Text := "<?xml version=\"1.0\"?>"

def rootTag : Text := "<a>"

/-- The word in the text of the root element. -/
def rootContent : Text := "DOCTYPE</a>"

def tagOnItsLine : Text := Text.join "\n" [xmlDeclaration, rootTag, rootContent]

def tagBehindDeclaration : Text := Text.join "\n" [xmlDeclaration ++ rootTag, rootContent]

theorem mode_behind_first_tag_tagOnItsLine :
    (documentLines tagOnItsLine = [xmlDeclaration] ++ rootTag :: [rootContent] ∧
      MarkerFree tagOnItsLine ∧ (∀ l ∈ [xmlDeclaration] ++ [rootTag], ¬ doctype <:+: l) ∧
      TagFirst rootTag) ∧
    textOutcome .utf8 tagOnItsLine = .ok .xsd := by
  have hlines : documentLines tagOnItsLine = [xmlDeclaration] ++ rootTag :: [rootContent] := by
    decide +kernel
  have hmarks : MarkerFree tagOnItsLine := by
    rintro (_ | _) <;> exact not_occurs (by decide +kernel)
  have hword : ∀ l ∈ [xmlDeclaration] ++ [rootTag], ¬ doctype <:+: l := by
    have hnone : ∀ l ∈ [xmlDeclaration] ++ [rootTag], occursIn doctype l = false := by decide +kernel
    exact fun l hl => not_occurs (hnone l hl)
  have htag : TagFirst rootTag := hasOpeningTag_iff.1 (by decide +kernel)
  exact ⟨⟨hlines, hmarks, hword, htag⟩, (mode_behind_first_tag .utf8 hlines hmarks hword).1 htag⟩

/-- A tag that is not the first thing on its line does not end the scan. -/
theorem tag_behind_declaration_can_be_passed :
    ¬ ∀ (text line : Text) (before after : List Text),
      documentLines text = before ++ line :: after → MarkerFree text → HoldsTag line →
      (∀ l ∈ before ++ [line], ¬ doctype <:+: l) → textOutcome .utf8 text = .ok .xsd := by
  intro h
  have hlines : documentLines tagBehindDeclaration =
      [] ++ (xmlDeclaration ++ rootTag) :: [rootContent] := by decide +kernel
  have hmarks : MarkerFree tagBehindDeclaration := by
    rintro (_ | _) <;> exact not_occurs (by decide +kernel)
  have htag : HoldsTag (xmlDeclaration ++ rootTag) :=
    ⟨xmlDeclaration, .char 'a', [.char '>'], by decide +kernel, by decide +kernel⟩
  have hword : ∀ l ∈ [] ++ [xmlDeclaration ++ rootTag], ¬ doctype <:+: l := by
    intro l hl
    rw [List.mem_singleton.1 hl]
    exact not_occurs (by decide +kernel)
  have hxsd := h _ _ _ _ hlines hmarks htag hword
  have hdtd : textOutcome .utf8 tagBehindDeclaration = .ok .dtd := by
    rw [textOutcome_eq, hlines]
    exact congrArg _ (by decide +kernel)
  rw [hdtd] at hxsd
  cases hxsd

end SchemaGate.Detection
