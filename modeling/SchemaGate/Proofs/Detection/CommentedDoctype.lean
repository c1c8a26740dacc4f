import SchemaGate.Proofs.Detection.Removal

/-! Document type declarations that are commented out.

    A document with well-formed comments (`WellCommented`) whose only occurrences of the word are
    inside comments (`DoctypeHidden`) should never be taken for one with a DTD. It is, exactly if a
    line that the scan reaches undecided is in one of four positions (`Leak`): it belongs to a
    comment whose opening the scan has passed over, or the word stands before the first opening
    marker, or behind the comments that are stripped, or it comes together when these go. -/

namespace SchemaGate.Detection

/-- Two dashes, which the body of a comment must not hold. -/
def dashes : Text := [.char '-', .char '-']

/-- Each comment runs from an opening marker to the next closing one and has no two dashes in its
body, and outside comments no closing marker stands. -/
inductive WellCommented : Text → Prop
  | plain {t : Text} : ¬ opening <:+: t → ¬ closing <:+: t → WellCommented t
  | comment {t body rest : Text} : ¬ opening <:+: t → ¬ closing <:+: t → ¬ dashes <:+: body →
      WellCommented rest → WellCommented (t ++ (opening ++ (body ++ (closing ++ rest))))

/-- Wherever the word stands, a comment is open. -/
def DoctypeHidden (text : Text) : Prop :=
  ∀ before after, text = before ++ (doctype ++ after) → endsInside false before = true

theorem doctypeHidden_iff {text : Text} : DoctypeHidden text ↔
    ∀ n ≤ text.length, startsWith doctype (text.drop n) = true →
      endsInside false (text.take n) = true := by
  constructor
  · intro h n _ hs
    obtain ⟨after, ha⟩ := startsWith_iff.1 hs
    exact h _ after (by rw [ha, List.take_append_drop])
  · rintro h before after rfl
    have := h before.length (by simp) (startsWith_iff.2 (by simp))
    rwa [List.take_left] at this

instance (text : Text) : Decidable (DoctypeHidden text) := decidable_of_iff' _ doctypeHidden_iff

/-- The line shows `p`, which stands before its first opening marker, and `s`, which stands behind
the comments that are stripped. -/
def Shows (inside : Bool) (line p s : Text) : Prop :=
  ∃ t r, line = p ++ (opening ++ t) ∧ ¬ opening <:+: p ∧ resumed inside t = r ++ s ∧ Closes r ∧
    commentFollows s = false

/-- The word comes together from what the line shows on both sides of the comments. -/
def Joins (inside : Bool) (line : Text) : Prop :=
  ∃ p s a b, Shows inside line p s ∧ doctype = a ++ b ∧ a ≠ [] ∧ b ≠ [] ∧ a <:+ p ∧ b <+: s

/-- How the word comes to be read as live though it is commented out. -/
inductive Leak : Bool → Text → Prop
  /-- On a line without markers, inside a comment whose opening marker was passed over. -/
  | overlooked {line : Text} : ¬ opening <:+: line → ¬ closing <:+: line → doctype <:+: line →
      Leak false line
  /-- In a comment of earlier lines, on a line that opens another one. -/
  | before {inside : Bool} {line p s : Text} : Shows inside line p s → doctype <:+: p →
      Leak inside line
  /-- In a later comment of the line, behind other text. -/
  | behind {inside : Bool} {line p s : Text} : Shows inside line p s → doctype <:+: s →
      Leak inside line
  /-- In two parts, which are live. -/
  | joined {inside : Bool} {line : Text} : Joins inside line → Leak inside line

/-! ### Closing markers of a well-formed document -/

theorem not_closing_of_not_dashes {body : Text} (h : ¬ dashes <:+: body) : ¬ closing <:+: body :=
  fun hc => h ((show dashes <:+: closing from ⟨[], [.char '>'], rfl⟩).trans hc)

theorem closing_occurs_of_dashes {u x : Text} (h : dashes <:+ u) : closing <:+: u ++ .char '>' :: x := by
  obtain ⟨a, rfl⟩ := h
  exact ⟨a, x, by simp [closing, dashes]⟩

theorem dashes_suffix_of_closing {x w : Text} (h : dashes <:+ x ++ (closing ++ w)) :
    dashes <:+ w := by
  match w with
  | [] =>
    obtain ⟨a, ha⟩ := h
    have := congrArg List.getLast? ha
    simp [dashes, closing] at this
  | [c] =>
    obtain ⟨a, ha⟩ := h
    have := congrArg List.reverse ha
    simp [dashes, closing] at this
  | c :: d :: w =>
    have hsuf : c :: d :: w <:+ x ++ (closing ++ c :: d :: w) := ⟨x ++ closing, by simp⟩
    exact List.suffix_of_suffix_length_le h hsuf (by simp [dashes])

/-- In a well-formed document a closing marker ends a comment: one is open before its last
character. -/
theorem WellCommented.endsInside_dashes {text : Text} (h : WellCommented text) :
    ∀ {u b : Text}, text = u ++ .char '>' :: b → dashes <:+ u → endsInside false u = true := by
  induction h with
  | plain _ hc =>
    rintro u b rfl hu
    exact absurd (closing_occurs_of_dashes hu) hc
  | @comment t body rest ho hc hd _ ih =>
    intro u b heq hu
    have hbody := not_closing_of_not_dashes hd
    -- the four places where the character can stand: before the comment, in its opening marker, in
    -- its body or its closing marker, and behind it
    rcases append_eq_append_cons heq with ⟨x, rfl⟩ | ⟨x, rfl, hx⟩
    · exact absurd (closing_occurs_of_dashes hu) hc
    rcases append_eq_append_cons hx with ⟨y, hopen⟩ | ⟨y, rfl, hy⟩
    · have hm : (CodePoint.char '>') ∈ opening := hopen ▸ by simp
      exact absurd hm (by decide)
    rw [endsInside_opening ho]
    rcases append_eq_append_cons hy with ⟨z, rfl⟩ | ⟨z, rfl, hz⟩
    · exact endsInside_of_not_closing fun hi => hbody (hi.trans List.infix_append_left)
    rcases append_eq_append_cons hz with ⟨w, hclose⟩ | ⟨w, rfl, hw⟩
    · refine endsInside_of_not_closing ?_
      refine unbordered_closing.not_infix_append hbody ⟨_, hclose.symm⟩ ?_
      rw [hclose, List.length_append, List.length_cons]
      omega
    · rw [endsInside_closing hbody]
      simp only [← List.append_assoc _ _ (closing ++ w)] at hu
      exact ih hw (dashes_suffix_of_closing hu)

/-! ### Lines that declare -/

/-- Where the word stands on a line, a comment is open. -/
theorem DoctypeHidden.endsInside {text line a b : Text} {inside : Bool} (hd : DoctypeHidden text)
    (hs : StandsIn text inside line) (hl : line = a ++ (doctype ++ b)) :
    endsInside inside a = true := by
  obtain ⟨front, back, htext, hflag⟩ := hs
  rw [← hflag]
  refine hd _ (b ++ back) ?_
  rw [htext, hl]
  simp only [List.append_assoc]

/-- A line on which a comment ends and none starts, starts inside that comment. -/
theorem WellCommented.inside_of_closing {text body s : Text} {inside : Bool} (hw : WellCommented text)
    (hs : StandsIn text inside (body ++ (closing ++ s))) (ho : ¬ opening <:+: body ++ (closing ++ s)) :
    inside = true := by
  obtain ⟨front, back, htext, hflag⟩ := hs
  have hdash : Detection.endsInside false (front ++ (body ++ dashes)) = true := by
    refine hw.endsInside_dashes (b := s ++ back) ?_ ⟨front ++ body, List.append_assoc ..⟩
    simp [htext, closing, dashes]
  have hpre : body ++ dashes <+: body ++ (closing ++ s) := ⟨.char '>' :: s, by simp [closing, dashes]⟩
  rw [hflag] at hdash
  cases inside with
  | true => rfl
  | false =>
    rw [endsInside_of_not_opening fun h => ho (h.trans hpre.isInfix)] at hdash
    cases hdash

theorem Shows.liveContent_eq {inside : Bool} {line p s : Text} (h : Shows inside line p s) :
    liveContent inside line = (some (p ++ s), false) := by
  obtain ⟨t, r, rfl, hp, hr, hc, hs⟩ := h
  exact (Reads.around hp hr hc hs).liveContent_eq

theorem Leak.declares {inside : Bool} {line : Text} (h : Leak inside line) :
    Declares (liveContent inside line) := by
  cases h with
  | overlooked ho hc hd => exact ⟨line, (Reads.unmarked ho hc).liveContent_eq, hd⟩
  | before hs hd => exact ⟨_, hs.liveContent_eq, hd.trans List.infix_append_left⟩
  | behind hs hd => exact ⟨_, hs.liveContent_eq, hd.trans List.infix_append_right⟩
  | joined hj =>
    obtain ⟨p, s, a, b, hs, hab, -, -, ha, hb⟩ := hj
    exact ⟨_, hs.liveContent_eq, List.infix_append_iff.2 (.inr (.inr ⟨a, b, hab, ha, hb⟩))⟩

/-- With the word in comments only, a line declares a document type exactly if it leaks the word,
whatever flag the scan has there. -/
theorem declares_iff_leak {text line : Text} {inside : Bool} (hw : WellCommented text)
    (hd : DoctypeHidden text) (hs : StandsIn text inside line) (flag : Bool) :
    Declares (liveContent flag line) ↔ Leak flag line := by
  refine ⟨?_, Leak.declares⟩
  rintro ⟨c, hc, hdoc⟩
  cases reads_iff.2 hc with
  | unmarked ho hcl => exact .overlooked ho hcl hdoc
  | @closed body s ho hb =>
    -- what stands behind the end of the comment is live, so it does not hold the word
    obtain ⟨a, b, rfl⟩ := hdoc
    have hin := hw.inside_of_closing hs ho
    have hopen := hd.endsInside (a := body ++ (closing ++ a)) (b := b) hs (by simp)
    have ha : ¬ opening <:+: a := fun h => ho (h.trans ⟨body ++ closing, doctype ++ b, by simp⟩)
    rw [hin, endsInside_closing hb, endsInside_of_not_opening ha] at hopen
    cases hopen
  | around hp hr hcl hcf =>
    have hshow : Shows flag _ _ _ := ⟨_, _, rfl, hp, hr, hcl, hcf⟩
    rcases List.infix_append_iff_ne_nil.1 hdoc with h | h | ⟨a, b, ha, hb, hab, hpa, hsb⟩
    · exact .before hshow h
    · exact .behind hshow h
    · exact .joined ⟨_, _, a, b, hshow, hab, ha, hb, hpa, hsb⟩

/-! ### Simple lines -/

/-- A simple line that shows something starts outside comments, and none opens behind the stripped
ones. -/
theorem Shows.of_simple {inside : Bool} {line p s : Text} (h : Shows inside line p s)
    (hline : Simple inside line) : inside = false ∧ ¬ opening <:+: s := by
  obtain ⟨t, r, hl, hp, hr, hc, hs⟩ := h
  have hopen : opening <:+: line := hl ▸ List.infix_append' ..
  cases hline with
  | unmarked ho _ => exact absurd hopen ho
  | @around p' r' s' hp' hr' hs' =>
    obtain ⟨-, ht⟩ := append_inj_of_not_infix unbordered_opening hp hp' hl.symm
    have hskip := hc.skipComments hs
    rw [← hr, resumed, if_neg nofun, ht, hr'.skipComments (commentFollows_of_not_opening hs')] at hskip
    cases hskip
    exact ⟨rfl, hs'⟩
  | dangling hb ht =>
    obtain ⟨-, heq⟩ := append_inj_of_not_infix unbordered_opening hp (not_opening_of_isBlank hb) hl.symm
    have hskip := hc.skipComments hs
    rw [← hr, resumed, if_neg nofun, heq, ht.skipComments] at hskip
    cases hskip
  | within hno =>
    have hclose : closing <:+: resumed true t := hr ▸ hc.closing_occurs.trans List.infix_append_left
    exact absurd (hl ▸ List.IsInfix.trans hclose List.infix_append_right) hno
  | closed _ ho => exact absurd hopen ho

/-- On a simple line the word leaks only in two live parts. -/
theorem Leak.joins {text line : Text} {inside : Bool} (h : Leak inside line)
    (hd : DoctypeHidden text) (hs : StandsIn text inside line) (hline : Simple inside line) :
    Joins inside line := by
  cases h with
  | overlooked ho _ hdoc =>
    obtain ⟨a, b, rfl⟩ := hdoc
    have hopen := hd.endsInside hs (List.append_assoc ..)
    rw [endsInside_of_not_opening fun h => ho (h.trans ⟨[], doctype ++ b, by simp⟩)] at hopen
    cases hopen
  | before hshow hdoc =>
    obtain ⟨rfl, -⟩ := hshow.of_simple hline
    obtain ⟨t, r, rfl, hp, -⟩ := hshow
    obtain ⟨a, b, rfl⟩ := hdoc
    have hopen := hd.endsInside (a := a) (b := b ++ (opening ++ t)) hs (by simp)
    rw [endsInside_of_not_opening fun h => hp (h.trans ⟨[], doctype ++ b, by simp⟩)] at hopen
    cases hopen
  | @behind _ _ p s hshow hdoc =>
    obtain ⟨rfl, hno⟩ := hshow.of_simple hline
    obtain ⟨t, r, rfl, hp, ht, hc, -⟩ := hshow
    obtain ⟨a, b, rfl⟩ := hdoc
    have hr : t = r ++ (a ++ doctype ++ b) := ht
    have hopen := hd.endsInside (a := p ++ (opening ++ (r ++ a))) (b := b) hs (by simp [hr])
    rw [endsInside_opening hp, hc.endsInside,
      endsInside_of_not_opening fun h => hno (h.trans ⟨[], doctype ++ b, by simp⟩)] at hopen
    cases hopen
  | joined hj => exact hj

/-! ### Documents -/

/-- A line that the scan reaches undecided has the property, for the flag that the scan has there. -/
def Reaches (text : Text) (P : Bool → Text → Prop) : Prop :=
  ∃ before line after, documentLines text = before ++ line :: after ∧
    (Scan.start.readLines before).verdict = none ∧ P (Scan.start.readLines before).inComment line

/-- A document with well-formed comments and the word in comments only is taken for one with a DTD
exactly if a line that the scan reaches undecided leaks the word. If all lines are simple, then only
one that joins the word from two live parts does. -/
theorem hidden_doctype_dtd_iff_leak (d : Detector) {text : Text} (hw : WellCommented text)
    (hd : DoctypeHidden text) :
    (textOutcome d text = .ok .dtd ↔ Reaches text Leak) ∧
    (SimpleLines false (documentLines text) →
      (textOutcome d text = .ok .dtd ↔ Reaches text Joins)) := by
  have hleak : textOutcome d text = .ok .dtd ↔ Reaches text Leak := by
    rw [textOutcome_eq, Except.ok.injEq, modeOfLines_eq_dtd_iff, Scan.verdict_eq_dtd_iff rfl]
    refine exists_congr fun before => exists_congr fun line => exists_congr fun after =>
      and_congr_right fun hl => and_congr_right fun _ => ?_
    exact declares_iff_leak hw hd (standsIn_of_documentLines hl) _
  refine ⟨hleak, fun hsimple => hleak.trans ⟨?_, ?_⟩⟩
  · rintro ⟨before, line, after, hl, hv, hline⟩
    obtain ⟨hflag, hs⟩ := SimpleLines.reached (hl ▸ hsimple) hv
    refine ⟨before, line, after, hl, hv, hline.joins hd ?_ (hflag ▸ hs)⟩
    rw [Scan.start, hflag]
    exact standsIn_of_documentLines hl
  · rintro ⟨before, line, after, hl, hv, hj⟩
    exact ⟨before, line, after, hl, hv, .joined hj⟩

/-- A comment with the word ends on a line on which another comment opens. -/
def carriedOver : Text := "<!--\nDOCTYPE--><!---->"

/-- A comment stands in the middle of the word. -/
def pulledApart : Text := "DOC<!---->TYPE"

theorem wellCommented_carriedOver : WellCommented carriedOver := by
  have hend : WellCommented [] := .plain (not_occurs rfl) (not_occurs rfl)
  have hsecond : WellCommented "<!---->" :=
    @WellCommented.comment [] [] _ (not_occurs rfl) (not_occurs rfl) (not_occurs rfl) hend
  exact @WellCommented.comment [] "\nDOCTYPE" _ (not_occurs rfl) (not_occurs rfl) (not_occurs rfl) hsecond

theorem wellCommented_pulledApart : WellCommented pulledApart := by
  have hend : WellCommented "TYPE" := .plain (not_occurs rfl) (not_occurs rfl)
  exact @WellCommented.comment "DOC" [] _ (not_occurs rfl) (not_occurs rfl) (not_occurs rfl) hend

theorem simpleLines_pulledApart : SimpleLines false (documentLines pulledApart) := by
  refine ⟨?_, trivial⟩
  exact @Simple.around "DOC" closing "TYPE" (not_occurs rfl) (@Closes.one [] (not_occurs rfl))
    (not_occurs rfl)

/-- A commented-out document type declaration can make the answer DTD. -/
theorem commented_doctype_can_decide : ¬ ∀ d text, WellCommented text →
    DoctypeHidden text → textOutcome d text ≠ .ok .dtd := by
  intro h
  refine h .utf8 carriedOver wellCommented_carriedOver (by decide +kernel) ?_
  rw [textOutcome_eq]
  exact congrArg Except.ok (by decide +kernel)

theorem hidden_doctype_dtd_carriedOver :
    (WellCommented carriedOver ∧ DoctypeHidden carriedOver ∧
      textOutcome .utf8 carriedOver = .ok .dtd) ∧
    (WellCommented pulledApart ∧ DoctypeHidden pulledApart ∧
      SimpleLines false (documentLines pulledApart) ∧
      textOutcome .utf8 pulledApart = .ok .dtd) := by
  have hcarried : DoctypeHidden carriedOver := by decide +kernel
  have hpulled : DoctypeHidden pulledApart := by decide +kernel
  refine ⟨⟨wellCommented_carriedOver, hcarried, ?_⟩,
    ⟨wellCommented_pulledApart, hpulled, simpleLines_pulledApart, ?_⟩⟩
  · refine (hidden_doctype_dtd_iff_leak .utf8 wellCommented_carriedOver hcarried).1.2 ?_
    refine ⟨["<!--"], "DOCTYPE--><!---->", [], by decide +kernel, by decide +kernel, ?_⟩
    have hflag : (Scan.start.readLines ["<!--"]).inComment = true := by decide +kernel
    have hshow : Shows true "DOCTYPE--><!---->" "DOCTYPE-->" [] :=
      ⟨"-->", "<!---->", by decide +kernel, not_occurs rfl, by decide +kernel,
        @Closes.one "<!--" (not_occurs rfl), by decide +kernel⟩
    rw [hflag]
    exact .before hshow ⟨[], "-->", by decide +kernel⟩
  · refine ((hidden_doctype_dtd_iff_leak .utf8 wellCommented_pulledApart hpulled).2
      simpleLines_pulledApart).2 ?_
    refine ⟨[], "DOC<!---->TYPE", [], by decide +kernel, rfl, ?_⟩
    have hshow : Shows false "DOC<!---->TYPE" "DOC" "TYPE" :=
      ⟨"-->TYPE", closing, by decide +kernel, not_occurs rfl, by decide +kernel,
        @Closes.one [] (not_occurs rfl), by decide +kernel⟩
    exact ⟨"DOC", "TYPE", "DOC", "TYPE", hshow, by decide +kernel, by decide +kernel,
      by decide +kernel, List.suffix_rfl, List.prefix_rfl⟩

end SchemaGate.Detection
