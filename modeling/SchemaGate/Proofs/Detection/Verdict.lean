import SchemaGate.Proofs.Detection.Lines
import SchemaGate.Proofs.Text.Occurrence

/-! The verdict of a document, read off the live contents of its lines.

    The scan stops at the first line that decides. Reading every line instead, each with the flag
    that the line before leaves (`threaded`), gives a list of readings, and the verdict is that of
    the first reading that has one (`verdict_readLines`). A reading decides for a DTD if it
    `Declares`, and for a schema if it `OpensTag` and does not declare; so a document is DTD exactly
    if some reading declares and none before it opens a tag (`DeclaresFirst`). -/

namespace SchemaGate.Detection

/-- The live content of each line, if it has any, and whether the line ends inside a comment; the
flag of one line is handed to the next. -/
def threaded : Bool → List Text → List (Option Text × Bool)
  | _, [] => []
  | inside, line :: rest =>
    liveContent inside line :: threaded (liveContent inside line).2 rest

/-- The first `<` of the text is followed by a letter. -/
def TagFirst (t : Text) : Prop :=
  ∃ before x after, t = before ++ .char '<' :: x :: after ∧ .char '<' ∉ before ∧ x.isLetter = true

/-- There is live content, and it speaks of a document type. -/
def Declares (r : Option Text × Bool) : Prop := ∃ c, r = (some c, false) ∧ doctype <:+: c

/-- There is live content, and its first `<` opens a tag. -/
def OpensTag (r : Option Text × Bool) : Prop := ∃ c, r = (some c, false) ∧ TagFirst c

/-- One of the readings declares a document type, and none before it opens a tag. -/
def DeclaresFirst (rs : List (Option Text × Bool)) : Prop :=
  ∃ before r after, rs = before ++ r :: after ∧ Declares r ∧ ∀ q ∈ before, ¬ OpensTag q

/-- The verdict of the first reading that has one. -/
def firstVerdict (rs : List (Option Text × Bool)) : Option Mode :=
  rs.findSome? fun r => lineVerdict r.2 r.1

/-! ### What one reading decides -/

theorem hasOpeningTag_iff {t : Text} : hasOpeningTag false t = true ↔ TagFirst t := by
  constructor
  · intro h
    have hsplit := List.takeWhile_append_dropWhile (p := (· ≠ CodePoint.char '<')) (l := t)
    have hhead := List.head?_dropWhile_not (· ≠ CodePoint.char '<') t
    rw [hasOpeningTag, Bool.not_false, Bool.true_and] at h
    split at h
    · next a x b hd =>
      rw [hd] at hhead hsplit
      have ha : a = .char '<' := by simpa using hhead
      refine ⟨_, x, b, by rw [← ha, hsplit], fun hm => ?_, h⟩
      simpa using List.all_eq_true.1 List.all_takeWhile _ hm
    · cases h
  · rintro ⟨before, x, after, rfl, hb, hx⟩
    have hne : ∀ c ∈ before, decide (c ≠ CodePoint.char '<') = true := fun c hc =>
      decide_eq_true fun he => hb (he ▸ hc)
    rw [hasOpeningTag, List.dropWhile_append_of_pos hne]
    simpa [List.dropWhile_cons] using hx

theorem not_doctype_of_isBlank {t : Text} (h : t.isBlank = true) : ¬ doctype <:+: t := by
  intro hd
  have hm : (.char 'D' : CodePoint) ∈ t := hd.subset (by simp [doctype])
  exact absurd (List.all_eq_true.1 h _ hm) (by decide)

theorem not_tagFirst_of_isBlank {t : Text} (h : t.isBlank = true) : ¬ TagFirst t := by
  rintro ⟨before, x, after, rfl, -, -⟩
  exact absurd (List.all_eq_true.1 h (.char '<') (by simp)) (by decide)

/-- The test for blanks decides nothing: blank content has neither the word nor a tag. -/
theorem lineVerdict_live (c : Text) :
    lineVerdict false (some c) =
      if occursIn doctype c then some .dtd
      else if hasOpeningTag false c then some .xsd else none := by
  simp only [lineVerdict, hasText, hasDoctype, Bool.false_or, Bool.not_not]
  by_cases hb : c.isBlank = true
  · have hd := mt occursIn_iff.1 (not_doctype_of_isBlank hb)
    have ht := mt hasOpeningTag_iff.1 (not_tagFirst_of_isBlank hb)
    rw [if_pos hb, if_neg hd, if_neg ht]
  · rw [if_neg hb]
    rfl

open Classical in
/-- What a reading decides: the word wins over a tag of the same line. -/
theorem lineVerdict_eq (r : Option Text × Bool) :
    lineVerdict r.2 r.1 =
      if Declares r then some .dtd else if OpensTag r then some .xsd else none := by
  obtain ⟨_ | c, _ | _⟩ := r
  · simp [lineVerdict, Declares, OpensTag]
  · simp [lineVerdict, Declares, OpensTag]
  · simp only [lineVerdict_live, occursIn_iff, hasOpeningTag_iff, Declares, OpensTag, Prod.mk.injEq,
      Option.some.injEq, and_true, exists_eq_left']
  · simp [lineVerdict, Declares, OpensTag]

/-! ### What a list of readings decides -/

theorem firstVerdict_cons (r : Option Text × Bool) (rs : List (Option Text × Bool)) :
    firstVerdict (r :: rs) = (lineVerdict r.2 r.1).or (firstVerdict rs) := by
  rw [firstVerdict, List.findSome?_cons]
  cases lineVerdict r.2 r.1 <;> rfl

theorem declaresFirst_cons_iff {r : Option Text × Bool} {rs : List (Option Text × Bool)} :
    DeclaresFirst (r :: rs) ↔ Declares r ∨ (¬ OpensTag r ∧ DeclaresFirst rs) := by
  constructor
  · rintro ⟨_ | ⟨q, before⟩, d, after, heq, hd, hno⟩
    · cases heq
      exact .inl hd
    · cases heq
      exact .inr ⟨hno r (by simp), before, d, after, rfl, hd, fun x hx => hno x (by simp [hx])⟩
  · rintro (hd | ⟨ht, before, d, after, rfl, hd, hno⟩)
    · exact ⟨[], r, rs, rfl, hd, fun _ hx => nomatch hx⟩
    · refine ⟨r :: before, d, after, rfl, hd, fun x hx => ?_⟩
      rcases List.mem_cons.1 hx with rfl | hx
      · exact ht
      · exact hno x hx

theorem firstVerdict_eq_dtd_iff {rs : List (Option Text × Bool)} :
    firstVerdict rs = some .dtd ↔ DeclaresFirst rs := by
  induction rs with
  | nil => simp [firstVerdict, DeclaresFirst]
  | cons r rs ih =>
    rw [declaresFirst_cons_iff, firstVerdict_cons, lineVerdict_eq, ← ih]
    by_cases hd : Declares r
    · simp [hd]
    · by_cases ht : OpensTag r
      · simp [hd, ht]
      · simp [hd, ht]

theorem firstVerdict_mem {rs : List (Option Text × Bool)} {m : Mode}
    (h : firstVerdict rs = some m) : m = .dtd ∨ m = .xsd := by
  obtain ⟨r, -, hr⟩ := List.exists_of_findSome?_eq_some h
  rw [lineVerdict_eq] at hr
  split at hr
  · cases hr; exact .inl rfl
  · split at hr
    · cases hr; exact .inr rfl
    · cases hr

/-- The verdict of a document of such readings, one way or the other. -/
theorem firstVerdict_getD {rs : List (Option Text × Bool)} :
    (DeclaresFirst rs ∧ (firstVerdict rs).getD .xsd = .dtd) ∨
      (¬ DeclaresFirst rs ∧ (firstVerdict rs).getD .xsd = .xsd) := by
  rw [← firstVerdict_eq_dtd_iff]
  cases hv : firstVerdict rs with
  | none => exact .inr ⟨nofun, rfl⟩
  | some m =>
    rcases firstVerdict_mem hv with rfl | rfl
    · exact .inl ⟨rfl, rfl⟩
    · exact .inr ⟨nofun, rfl⟩

theorem firstVerdict_isSome_iff {rs : List (Option Text × Bool)} :
    (firstVerdict rs).isSome ↔ ∃ r ∈ rs, Declares r ∨ OpensTag r := by
  rw [firstVerdict, List.findSome?_isSome_iff]
  refine exists_congr fun r => and_congr_right fun _ => ?_
  rw [lineVerdict_eq]
  by_cases hd : Declares r <;> by_cases ht : OpensTag r <;> simp [hd, ht]

/-! ### The scan of a document -/

namespace Scan

theorem readLine_of_verdict {s : Scan} {m : Mode} (h : s.verdict = some m) (line : Text) :
    s.readLine line = s := by
  rw [readLine, h]

theorem readLines_of_verdict {s : Scan} {m : Mode} (h : s.verdict = some m) (lines : List Text) :
    s.readLines lines = s := by
  induction lines with
  | nil => rfl
  | cons line rest ih => rw [readLines, List.foldl_cons, readLine_of_verdict h]; exact ih

theorem readLines_append (s : Scan) (a b : List Text) :
    s.readLines (a ++ b) = (s.readLines a).readLines b := List.foldl_append

/-- A scan that has decided nothing yet decides as the first of the readings that follow. -/
theorem verdict_readLines (inside : Bool) (lines : List Text) :
    ((Scan.mk inside none).readLines lines).verdict = firstVerdict (threaded inside lines) := by
  induction lines generalizing inside with
  | nil => rfl
  | cons line rest ih =>
    have hstep : (Scan.mk inside none).readLines (line :: rest) =
        (Scan.mk (liveContent inside line).2
          (lineVerdict (liveContent inside line).2 (liveContent inside line).1)).readLines rest := rfl
    rw [hstep, threaded, firstVerdict_cons]
    cases hv : lineVerdict (liveContent inside line).2 (liveContent inside line).1 with
    | none => exact ih _
    | some m =>
      rw [readLines_of_verdict rfl]
      rfl

/-- The scan decides for a DTD at a line that it reaches undecided and whose live content declares. -/
theorem verdict_eq_dtd_iff {s : Scan} (hs : s.verdict = none) (lines : List Text) :
    (s.readLines lines).verdict = some .dtd ↔
      ∃ before line after, lines = before ++ line :: after ∧ (s.readLines before).verdict = none ∧
        Declares (liveContent (s.readLines before).inComment line) := by
  induction lines generalizing s with
  | nil => simp [readLines, hs]
  | cons line rest ih =>
    have hstep : (s.readLine line).verdict =
        lineVerdict (liveContent s.inComment line).2 (liveContent s.inComment line).1 := by
      rw [readLine, hs]
    have hcons : ∀ ls, s.readLines (line :: ls) = (s.readLine line).readLines ls := fun _ => rfl
    rw [lineVerdict_eq] at hstep
    rw [hcons]
    by_cases hd : Declares (liveContent s.inComment line)
    · rw [if_pos hd] at hstep
      rw [readLines_of_verdict hstep, hstep]
      exact ⟨fun _ => ⟨[], line, rest, rfl, hs, hd⟩, fun _ => rfl⟩
    · rw [if_neg hd] at hstep
      split at hstep
      · rw [readLines_of_verdict hstep, hstep]
        refine ⟨nofun, ?_⟩
        rintro ⟨_ | ⟨_, before⟩, last, after, heq, hv, hlast⟩
        · cases heq
          exact absurd hlast hd
        · cases heq
          rw [hcons, readLines_of_verdict hstep, hstep] at hv
          cases hv
      · rw [ih hstep]
        constructor
        · rintro ⟨before, last, after, rfl, hv, hlast⟩
          exact ⟨line :: before, last, after, rfl, hv, hlast⟩
        · rintro ⟨_ | ⟨_, before⟩, last, after, heq, hv, hlast⟩
          · cases heq
            exact absurd hlast hd
          · cases heq
            exact ⟨before, last, after, rfl, hv, hlast⟩

end Scan

theorem modeOfLines_eq (lines : List Text) :
    modeOfLines lines = (firstVerdict (threaded false lines)).getD .xsd :=
  congrArg (·.getD Mode.xsd) (Scan.verdict_readLines false lines)

theorem modeOfLines_eq_dtd_iff (lines : List Text) :
    modeOfLines lines = .dtd ↔ (Scan.start.readLines lines).verdict = some .dtd := by
  rw [modeOfLines, Scan.mode]
  cases (Scan.start.readLines lines).verdict with
  | none => simp
  | some m => simp

theorem modeOfLines_cases (lines : List Text) :
    (DeclaresFirst (threaded false lines) ∧ modeOfLines lines = .dtd) ∨
      (¬ DeclaresFirst (threaded false lines) ∧ modeOfLines lines = .xsd) := by
  rw [modeOfLines_eq]
  exact firstVerdict_getD

/-- Lines behind one that decides are not looked at. -/
theorem modeOfLines_append {a : List Text} (h : ∃ r ∈ threaded false a, Declares r ∨ OpensTag r)
    (b : List Text) : modeOfLines (a ++ b) = modeOfLines a := by
  obtain ⟨m, hm⟩ := Option.isSome_iff_exists.1 (firstVerdict_isSome_iff.2 h)
  rw [← Scan.verdict_readLines] at hm
  rw [modeOfLines, Scan.readLines_append, Scan.start, Scan.readLines_of_verdict hm]
  rfl

/-- What detection answers on an open stream of decoded text. -/
def textOutcome (d : Detector) (text : Text) : Except Failure Mode :=
  (detect d ⟨.decoded text, false⟩).outcome

theorem textOutcome_eq (d : Detector) (text : Text) :
    textOutcome d text = .ok (modeOfLines (documentLines text)) := rfl

/-- Detection on decoded text answers DTD exactly if, of its lines read one after another, one has
live content that declares a document type and none before it has live content whose first `<` opens
a tag; else it answers XSD. So what follows a decided line does not matter, and a document on which
no declaration is found is XSD, the empty one included. -/
theorem textOutcome_dtd_iff_declaresFirst (d : Detector) (text : Text) :
    (textOutcome d text = .ok .dtd ↔ DeclaresFirst (threaded false (documentLines text))) ∧
    (¬ DeclaresFirst (threaded false (documentLines text)) →
      textOutcome d text = .ok .xsd) ∧
    (Terminated text → (∃ r ∈ threaded false (documentLines text), Declares r ∨ OpensTag r) →
      ∀ more, textOutcome d (text ++ more) = textOutcome d text) ∧
    ((∀ r ∈ threaded false (documentLines text), ¬ Declares r) →
      textOutcome d text = .ok .xsd) ∧
    textOutcome d [] = .ok .xsd := by
  simp only [textOutcome_eq]
  have hxsd : ¬ DeclaresFirst (threaded false (documentLines text)) →
      modeOfLines (documentLines text) = .xsd := fun hn =>
    (modeOfLines_cases _).elim (fun h => absurd h.1 hn) And.right
  refine ⟨?_, fun hn => by rw [hxsd hn], fun ht hd more => ?_, fun hn => ?_, rfl⟩
  · rcases modeOfLines_cases (documentLines text) with ⟨hd, hm⟩ | ⟨hn, hm⟩
    · simp only [hm, hd]
    · simp [hm, hn]
  · rw [ht.documentLines_append, modeOfLines_append hd]
  · rw [hxsd]
    rintro ⟨before, r, after, heq, hr, -⟩
    exact hn r (by simp [heq]) hr

end SchemaGate.Detection
