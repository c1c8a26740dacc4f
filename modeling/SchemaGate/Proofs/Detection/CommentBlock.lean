import SchemaGate.Proofs.Detection.Removal
import SchemaGate.Proofs.Text.Joined

/-! Comments on lines of their own.

    A comment block is one or more whole lines that hold a comment and nothing else: blanks, the
    opening marker, a body, the first closing marker, blanks. The scan passes through such a block in
    three stretches, blank lines, lines inside the comment and blank lines again, and each of them
    decides nothing, whatever the body holds. It enters and leaves the block outside comments, so
    what follows is read as if the block were not there (`mode_append_comment_block`). -/

namespace SchemaGate.Detection

/-- The lines hold one comment that only blanks surround, and no other opening marker. -/
def CommentBlock (block : List Text) : Prop :=
  ∃ before body after, Text.join "\n" block = before ++ (opening ++ (body ++ (closing ++ after))) ∧
    before.isBlank = true ∧ after.isBlank = true ∧ ¬ closing <:+: body ∧
    ¬ opening <:+: body ++ (closing ++ after)

/-! ### The first line of a text in pieces -/

theorem isBlank_append_cons {a b : Text} {c : CodePoint} (h : Text.isBlank (a ++ c :: b) = true) :
    a.isBlank = true ∧ b.isBlank = true := by
  simp only [Text.isBlank, List.all_append, List.all_cons, Bool.and_eq_true] at h ⊢
  exact ⟨h.1, h.2.2⟩

theorem not_infix_append_cons {p a b : Text} {c : CodePoint} (h : ¬ p <:+: a ++ c :: b) :
    ¬ p <:+: a ∧ ¬ p <:+: b :=
  ⟨fun hi => h (hi.trans ⟨[], c :: b, rfl⟩), fun hi => h (hi.trans ⟨a ++ [c], [], by simp⟩)⟩

theorem not_closing_of_isBlank {t : Text} (h : t.isBlank = true) : ¬ closing <:+: t := by
  intro hc
  have hm : (.char '>' : CodePoint) ∈ t := hc.subset (by simp [closing])
  exact absurd (List.all_eq_true.1 h _ hm) (by decide)

/-- What holds no newline stands in the first line or behind it. -/
theorem append_cases_newline {p line more a b : Text} (hp : .char '\n' ∉ p)
    (h : line ++ .char '\n' :: more = a ++ (p ++ b)) :
    (∃ a', a = line ++ .char '\n' :: a' ∧ more = a' ++ (p ++ b)) ∨
      ∃ b', line = a ++ (p ++ b') ∧ b = b' ++ .char '\n' :: more := by
  rcases append_eq_append_cons h.symm with ⟨a', rfl⟩ | ⟨x, rfl, hx⟩
  · exact .inl ⟨a', rfl, by simpa using h⟩
  · rcases append_eq_append_cons hx with ⟨y, rfl⟩ | ⟨b', rfl, hb⟩
    · exact absurd (by simp) hp
    · exact .inr ⟨b', rfl, hb⟩

theorem newline_not_mem_opening : .char '\n' ∉ opening := divides_newline false

theorem newline_not_mem_closing : .char '\n' ∉ closing := divides_newline true

/-! ### The three stretches -/

namespace Scan

theorem readLines_cons (s : Scan) (line : Text) (rest : List Text) :
    s.readLines (line :: rest) = (s.readLine line).readLines rest := rfl

/-- An undecided scan takes from a line what its content decides and the flag. -/
theorem readLine_of_reads {inside after : Bool} {line : Text} {content : Option Text}
    (h : Reads inside line content after) :
    (Scan.mk inside none).readLine line = ⟨after, lineVerdict after content⟩ := by
  rw [readLine]
  simp only [h.liveContent_eq]

theorem readLine_blank {line : Text} (h : line.isBlank = true) : start.readLine line = start := by
  rw [start, readLine_of_reads (.unmarked (not_opening_of_isBlank h) (not_closing_of_isBlank h)),
    lineVerdict_of_isBlank h]

/-- Inside a comment that goes on, no line decides, whatever it holds. -/
theorem readLine_within {line : Text} (ho : ¬ opening <:+: line) (hc : ¬ closing <:+: line) :
    (Scan.mk true none).readLine line = ⟨true, none⟩ := readLine_of_reads (.unmarked ho hc)

theorem readLine_closed {body after : Text} (ho : ¬ opening <:+: body ++ (closing ++ after))
    (hc : ¬ closing <:+: body) (ha : after.isBlank = true) :
    (Scan.mk true none).readLine (body ++ (closing ++ after)) = start := by
  rw [readLine_of_reads (.closed ho hc), lineVerdict_of_isBlank ha, start]

theorem readLine_opened {before body : Text} (hb : before.isBlank = true) (hc : ¬ closing <:+: body) :
    start.readLine (before ++ (opening ++ body)) = ⟨true, none⟩ :=
  readLine_of_reads (@Reads.dangling false before body (not_opening_of_isBlank hb) (.one hc))

theorem readLine_enclosed {before body after : Text} (hb : before.isBlank = true)
    (hc : ¬ closing <:+: body) (ha : after.isBlank = true) :
    start.readLine (before ++ (opening ++ (body ++ (closing ++ after)))) = start := by
  have hfollows : commentFollows after = false :=
    commentFollows_of_not_opening (not_opening_of_isBlank ha)
  have hread : Reads false (before ++ (opening ++ (body ++ (closing ++ after))))
      (some (before ++ after)) false :=
    .around (not_opening_of_isBlank hb) (List.append_assoc ..).symm (.one hc) hfollows
  have hblank : (before ++ after).isBlank = true := by
    rw [Text.isBlank, List.all_append, Bool.and_eq_true]
    exact ⟨hb, ha⟩
  rw [start, readLine_of_reads hread, lineVerdict_of_isBlank hblank]

theorem readLines_blank {lines : List Text} (h : (Text.join "\n" lines).isBlank = true) :
    start.readLines lines = start := by
  induction lines with
  | nil => rfl
  | cons line rest ih =>
    cases rest with
    | nil =>
      rw [Text.join_singleton] at h
      exact readLine_blank h
    | cons next rest =>
      rw [Text.join_cons] at h
      obtain ⟨hline, hrest⟩ := isBlank_append_cons h
      rw [readLines_cons, readLine_blank hline, ih hrest]

/-- From inside a comment to the blanks behind its end. -/
theorem readLines_closed {lines : List Text} {body after : Text}
    (h : Text.join "\n" lines = body ++ (closing ++ after))
    (ho : ¬ opening <:+: body ++ (closing ++ after)) (hc : ¬ closing <:+: body)
    (ha : after.isBlank = true) : (Scan.mk true none).readLines lines = start := by
  induction lines generalizing body with
  | nil => simp [Text.join, closing] at h
  | cons line rest ih =>
    cases rest with
    | nil =>
      rw [Text.join_singleton] at h
      rw [h]
      exact readLine_closed ho hc ha
    | cons next rest =>
      rw [Text.join_cons] at h
      rw [readLines_cons]
      rcases append_cases_newline newline_not_mem_closing h with ⟨more, rfl, hmore⟩ | ⟨rest, rfl, rfl⟩
      · -- the line lies in the body
        obtain ⟨hline, hbody⟩ := not_infix_append_cons hc
        rw [List.append_assoc, List.cons_append] at ho
        obtain ⟨holine, homore⟩ := not_infix_append_cons ho
        rw [readLine_within holine hline]
        exact ih hmore homore hbody
      · -- the comment ends on the line
        obtain ⟨hrest, hblank⟩ := isBlank_append_cons ha
        have holine : ¬ opening <:+: body ++ (closing ++ rest) :=
          (not_infix_append_cons (by simpa using ho)).1
        rw [readLine_closed holine hc hrest, readLines_blank hblank]

/-- The whole block leaves nothing behind. -/
theorem readLines_commentBlock {block : List Text} (h : CommentBlock block) :
    start.readLines block = start := by
  obtain ⟨before, body, after, hjoin, hb, ha, hc, ho⟩ := h
  induction block generalizing before with
  | nil => rfl
  | cons line rest ih =>
    cases rest with
    | nil =>
      rw [Text.join_singleton] at hjoin
      rw [hjoin]
      exact readLine_enclosed hb hc ha
    | cons next rest =>
      rw [Text.join_cons] at hjoin
      rw [readLines_cons]
      rcases append_cases_newline newline_not_mem_opening hjoin with ⟨more, rfl, hmore⟩ | ⟨t, rfl, ht⟩
      · -- the line is a blank one before the comment
        obtain ⟨hline, hblank⟩ := isBlank_append_cons hb
        rw [readLine_blank hline]
        exact ih more hmore hblank
      rcases append_cases_newline newline_not_mem_closing ht.symm with ⟨more, rfl, hmore⟩ | ⟨rest, rfl, rfl⟩
      · -- the comment opens on the line and goes on
        obtain ⟨hline, hbody⟩ := not_infix_append_cons hc
        rw [List.append_assoc, List.cons_append] at ho
        rw [readLine_opened hb hline]
        exact readLines_closed hmore (not_infix_append_cons ho).2 hbody ha
      · -- the comment opens and ends on the line
        obtain ⟨hrest, hblank⟩ := isBlank_append_cons ha
        rw [readLine_enclosed hb hc hrest, readLines_blank hblank]

/-- A scan that is outside comments, or that has decided, passes over a comment block. -/
theorem readLines_append_commentBlock {s : Scan} {block : List Text}
    (hs : s.inComment = false ∨ ∃ m, s.verdict = some m) (hblock : CommentBlock block) :
    s.readLines block = s := by
  obtain ⟨inComment, _ | m⟩ := s
  · rcases hs with rfl | ⟨m, hm⟩
    · exact readLines_commentBlock hblock
    · cases hm
  · exact readLines_of_verdict rfl block

end Scan

/-! ### Documents -/

/-- A comment block that is put in where the scan is outside comments, or has decided, changes
neither the state of the scan nor the mode of the document, whatever stands before and behind it and
whatever the comment holds. -/
theorem mode_append_comment_block {before block : List Text} (after : List Text)
    (hbefore : (Scan.start.readLines before).inComment = false ∨
      ∃ m, (Scan.start.readLines before).verdict = some m)
    (hblock : CommentBlock block) :
    Scan.start.readLines (before ++ block) = Scan.start.readLines before ∧
    modeOfLines (before ++ block ++ after) = modeOfLines (before ++ after) ∧
    ∀ d text text', documentLines text = before ++ block ++ after →
      documentLines text' = before ++ after →
      textOutcome d text = textOutcome d text' := by
  have hscan : Scan.start.readLines (before ++ block) = Scan.start.readLines before := by
    rw [Scan.readLines_append, Scan.readLines_append_commentBlock hbefore hblock]
  have hmode : modeOfLines (before ++ block ++ after) = modeOfLines (before ++ after) := by
    rw [modeOfLines, modeOfLines, Scan.readLines_append, hscan, Scan.readLines_append]
  refine ⟨hscan, hmode, fun d text text' ht ht' => ?_⟩
  rw [textOutcome_eq, textOutcome_eq, ht, ht', hmode]

/-- Six lines: a blank one, and a comment that speaks of a document type and opens a tag. -/
def remark : List Text := [" ", " <!-- <!DOCTYPE", "<a>", "", "<!b>-- >-", "--> "]

theorem commentBlock_remark : CommentBlock remark := by
  refine ⟨" \n ", " <!DOCTYPE\n<a>\n\n<!b>-- >-\n", " ", by decide +kernel, by decide +kernel,
    by decide +kernel, not_occurs (by decide +kernel), not_occurs (by decide +kernel)⟩

/-- A line with two comments, behind which the scan is outside comments though the line is not. -/
def twice : List Text := ["<!--a-->b<!--"]

def declaration : List Text := ["-->", "<!DOCTYPE c>", "<c/>"]

theorem mode_append_comment_block_remark :
    ((Scan.start.readLines twice).inComment = false ∧ CommentBlock remark) ∧
    Scan.start.readLines (twice ++ remark) = Scan.start.readLines twice ∧
    modeOfLines (twice ++ remark ++ declaration) = modeOfLines (twice ++ declaration) ∧
    modeOfLines (twice ++ declaration) = .dtd := by
  have htwice : (Scan.start.readLines twice).inComment = false := by decide +kernel
  have h := mode_append_comment_block declaration (.inl htwice) commentBlock_remark
  exact ⟨⟨htwice, commentBlock_remark⟩, h.1, h.2.1, by decide +kernel⟩

end SchemaGate.Detection
