import SchemaGate.Proofs.Detection.Flag
import SchemaGate.Proofs.Detection.Verdict

/-! A plain remover of comments, character by character, and the lines on which the scan agrees
    with it.

    `endsInside` follows the markers from left to right and `remaining` deletes what stands between
    them, with the blanks that divide two comments of a line. The scan is cruder: it keeps the text
    before the first opening marker whatever that text is, and takes the line as it is from the
    first text behind a comment. On the lines called `Simple` this makes no difference
    (`Simple.agrees`), hence none on a document made of them (`scan_refines_removal`). -/

namespace SchemaGate.Detection

/-- Where the remover stands. -/
inductive Place where
  | inside
  | outside
  /-- Outside, with nothing but the given low characters since the last comment. -/
  | behind (gap : Text)

/-- What is left of a line without its comments. The characters behind a comment are held back as
long as they are low, and deleted if another comment follows. -/
def remaining : Place → Text → Text
  | .inside, .char '-' :: .char '-' :: .char '>' :: t => remaining (.behind []) t
  | .inside, _ :: t => remaining .inside t
  | .inside, [] => []
  | .outside, .char '<' :: .char '!' :: .char '-' :: .char '-' :: t => remaining .inside t
  | .outside, c :: t => c :: remaining .outside t
  | .outside, [] => []
  | .behind _, .char '<' :: .char '!' :: .char '-' :: .char '-' :: t => remaining .inside t
  | .behind gap, c :: t =>
    if c.isLow then remaining (.behind (gap ++ [c])) t else gap ++ c :: remaining .outside t
  | .behind gap, [] => gap

/-- The place at the start of a line. -/
def Place.ofFlag (inside : Bool) : Place := if inside then .inside else .outside

/-- What is left of each line. -/
def remainders : Bool → List Text → List Text
  | _, [] => []
  | inside, line :: rest =>
    remaining (.ofFlag inside) line :: remainders (endsInside inside line) rest

/-- One of the texts speaks of a document type, and in none before it the first `<` opens a tag. -/
def DoctypeFirst (texts : List Text) : Prop :=
  ∃ before t after, texts = before ++ t :: after ∧ doctype <:+: t ∧ ∀ u ∈ before, ¬ TagFirst u

/-- The lines on which the scan and the remover cannot differ, by the flag that they start with. -/
inductive Simple : Bool → Text → Prop
  | unmarked {inside : Bool} {line : Text} : ¬ opening <:+: line → ¬ closing <:+: line →
      Simple inside line
  | around {p r s : Text} : ¬ opening <:+: p → Closes r → ¬ opening <:+: s →
      Simple false (p ++ (opening ++ (r ++ s)))
  | dangling {p t : Text} : p.isBlank = true → LeavesOpen t → Simple false (p ++ (opening ++ t))
  | within {line : Text} : ¬ closing <:+: line → Simple true line
  | closed {line : Text} : closing <:+: line → ¬ opening <:+: line → Simple true line

/-- Every line is simple for the flag that the remover has at its start. -/
def SimpleLines : Bool → List Text → Prop
  | _, [] => True
  | inside, line :: rest => Simple inside line ∧ SimpleLines (endsInside inside line) rest

/-! ### What is left -/

theorem remaining_inside_cons {c : CodePoint} {t : Text} (h : ¬ closing <+: c :: t) :
    remaining .inside (c :: t) = remaining .inside t := by
  rw [remaining]
  rintro u rfl rfl
  exact h ⟨u, rfl⟩

theorem remaining_outside_cons {c : CodePoint} {t : Text} (h : ¬ opening <+: c :: t) :
    remaining .outside (c :: t) = c :: remaining .outside t := by
  rw [remaining]
  rintro u rfl rfl
  exact h ⟨u, rfl⟩

theorem remaining_behind_cons {gap : Text} {c : CodePoint} {t : Text} (h : ¬ opening <+: c :: t) :
    remaining (.behind gap) (c :: t) =
      if c.isLow then remaining (.behind (gap ++ [c])) t else gap ++ c :: remaining .outside t := by
  rw [remaining]
  rintro u rfl rfl
  exact h ⟨u, rfl⟩

theorem remaining_inside_of_not_closing {t : Text} (h : ¬ closing <:+: t) :
    remaining .inside t = [] := by
  induction t with
  | nil => rfl
  | cons c t ih =>
    rw [List.infix_cons_iff, not_or] at h
    rw [remaining_inside_cons h.1, ih h.2]

theorem remaining_outside_of_not_opening {t : Text} (h : ¬ opening <:+: t) :
    remaining .outside t = t := by
  induction t with
  | nil => rfl
  | cons c t ih =>
    rw [List.infix_cons_iff, not_or] at h
    rw [remaining_outside_cons h.1, ih h.2]

theorem remaining_behind_of_not_opening {t : Text} (h : ¬ opening <:+: t) (gap : Text) :
    remaining (.behind gap) t = gap ++ t := by
  induction t generalizing gap with
  | nil => exact (List.append_nil gap).symm
  | cons c t ih =>
    rw [List.infix_cons_iff, not_or] at h
    rw [remaining_behind_cons h.1, ih h.2, remaining_outside_of_not_opening h.2, List.append_assoc]
    exact ite_self _

theorem remaining_closing {body : Text} (h : ¬ closing <:+: body) (t : Text) :
    remaining .inside (body ++ (closing ++ t)) = remaining (.behind []) t := by
  induction body with
  | nil => rfl
  | cons c body ih =>
    have hstart := not_prefix_append unbordered_closing h t
    rw [List.infix_cons_iff, not_or] at h
    rw [List.cons_append, remaining_inside_cons hstart, ih h.2]

theorem remaining_opening {p : Text} (h : ¬ opening <:+: p) (t : Text) :
    remaining .outside (p ++ (opening ++ t)) = p ++ remaining .inside t := by
  induction p with
  | nil => rfl
  | cons c p ih =>
    have hstart := not_prefix_append unbordered_opening h t
    rw [List.infix_cons_iff, not_or] at h
    rw [List.cons_append, remaining_outside_cons hstart, ih h.2, List.cons_append]

/-- The characters that were held back go when another comment follows. -/
theorem remaining_gap {gap : Text} (h : Gap gap) (held t : Text) :
    remaining (.behind held) (gap ++ (opening ++ t)) = remaining .inside t := by
  induction gap generalizing held with
  | nil => rfl
  | cons c gap ih =>
    have hstart := not_prefix_append unbordered_opening h.not_opening t
    rw [List.cons_append, remaining_behind_cons hstart, if_pos (h c (by simp))]
    exact ih (fun d hd => h d (List.mem_cons_of_mem c hd)) _

theorem Closes.remaining {r : Text} (h : Closes r) (s : Text) :
    remaining .inside (r ++ s) = remaining (.behind []) s := by
  induction h with
  | one hb => rw [List.append_assoc, remaining_closing hb]
  | more hb hg _ ih =>
    simp only [List.append_assoc]
    rw [remaining_closing hb, remaining_gap hg, ih]

theorem LeavesOpen.remaining {t : Text} (h : LeavesOpen t) : remaining .inside t = [] := by
  induction h with
  | one hb => exact remaining_inside_of_not_closing hb
  | more hb hg _ ih => rw [remaining_closing hb, remaining_gap hg, ih]

/-! ### The scan and the remover -/

theorem not_opening_of_isBlank {t : Text} (h : t.isBlank = true) : ¬ opening <:+: t := by
  intro ho
  have hm : (.char '<' : CodePoint) ∈ t := ho.subset (by simp [opening])
  exact absurd (List.all_eq_true.1 h _ hm) (by decide)

theorem lineVerdict_of_isBlank {t : Text} (h : t.isBlank = true) :
    lineVerdict false (some t) = none := by
  simp [lineVerdict, hasText, h]

/-- A line that no comment ends on stays inside the one it starts in. -/
theorem liveContent_within {line : Text} (h : ¬ closing <:+: line) :
    (liveContent true line).2 = true := by
  by_cases ho : opening <:+: line
  · obtain ⟨p, t, rfl, hp⟩ := exists_cut unbordered_opening.1 ho
    have ht : LeavesOpen (resumed true t) := .one fun hc => h (hc.trans List.infix_append_right)
    rw [(Reads.dangling hp ht).liveContent_eq]
  · rw [(Reads.unmarked ho h).liveContent_eq]

/-- On a simple line the two leave the same flag and come to the same verdict. -/
theorem Simple.agrees {inside : Bool} {line : Text} (h : Simple inside line) :
    (liveContent inside line).2 = endsInside inside line ∧
    lineVerdict (liveContent inside line).2 (liveContent inside line).1 =
      lineVerdict false (some (remaining (.ofFlag inside) line)) := by
  cases h with
  | unmarked ho hc =>
    rw [(Reads.unmarked ho hc).liveContent_eq]
    cases inside with
    | false =>
      rw [endsInside_of_not_opening ho]
      exact ⟨rfl, by rw [Place.ofFlag, if_neg nofun, remaining_outside_of_not_opening ho]⟩
    | true =>
      rw [endsInside_of_not_closing hc]
      exact ⟨rfl, by rw [Place.ofFlag, if_pos rfl, remaining_inside_of_not_closing hc]; rfl⟩
  | @around p r s hp hr hs =>
    have hread : Reads false (p ++ (opening ++ (r ++ s))) (some (p ++ s)) false :=
      .around hp rfl hr (commentFollows_of_not_opening hs)
    rw [hread.liveContent_eq, endsInside_opening hp, hr.endsInside,
      endsInside_of_not_opening hs]
    refine ⟨rfl, ?_⟩
    rw [Place.ofFlag, if_neg nofun, remaining_opening hp, hr.remaining,
      remaining_behind_of_not_opening hs]
    rfl
  | @dangling p t hp ht =>
    have ho : ¬ opening <:+: p := not_opening_of_isBlank hp
    have hread : Reads false (p ++ (opening ++ t)) none true := .dangling ho ht
    rw [hread.liveContent_eq, endsInside_opening ho, ht.endsInside]
    refine ⟨rfl, ?_⟩
    rw [Place.ofFlag, if_neg nofun, remaining_opening ho, ht.remaining, List.append_nil,
      lineVerdict_of_isBlank hp]
    rfl
  | within hc =>
    rw [liveContent_within hc, endsInside_of_not_closing hc]
    refine ⟨rfl, ?_⟩
    rw [Place.ofFlag, if_pos rfl, remaining_inside_of_not_closing hc, lineVerdict_of_isBlank rfl]
    cases (liveContent true line).1 <;> rfl
  | closed hc ho =>
    obtain ⟨body, s, rfl, hb⟩ := exists_cut unbordered_closing.1 hc
    have hs : ¬ opening <:+: s := not_opening_behind ho
    rw [(Reads.closed ho hb).liveContent_eq, endsInside_closing hb,
      endsInside_of_not_opening hs]
    refine ⟨rfl, ?_⟩
    rw [Place.ofFlag, if_pos rfl, remaining_closing hb, remaining_behind_of_not_opening hs]
    rfl

theorem doctypeFirst_iff {texts : List Text} :
    DoctypeFirst texts ↔ DeclaresFirst (texts.map fun t => (some t, false)) := by
  constructor
  · rintro ⟨before, t, after, rfl, ht, hno⟩
    refine ⟨_, (some t, false), _, by rw [List.map_append, List.map_cons], ⟨t, rfl, ht⟩, ?_⟩
    intro q hq
    obtain ⟨u, hu, rfl⟩ := List.mem_map.1 hq
    rintro ⟨c, hc, hf⟩
    cases hc
    exact hno u hu hf
  · rintro ⟨before, r, after, heq, ⟨t, rfl, ht⟩, hno⟩
    obtain ⟨us, vs, rfl, rfl, hvs⟩ := List.map_eq_append_iff.1 heq
    obtain ⟨v, ws, rfl, hv, -⟩ := List.map_eq_cons_iff.1 hvs
    cases hv
    exact ⟨us, t, ws, rfl, ht, fun u hu hf => hno _ (List.mem_map_of_mem hu) ⟨u, rfl, hf⟩⟩

/-- As long as the scan has decided nothing it has the remover's flag, for which the next line is
simple. -/
theorem SimpleLines.reached {inside : Bool} {before after : List Text} {line : Text}
    (h : SimpleLines inside (before ++ line :: after))
    (hv : ((Scan.mk inside none).readLines before).verdict = none) :
    ((Scan.mk inside none).readLines before).inComment = before.foldl endsInside inside ∧
      Simple (before.foldl endsInside inside) line := by
  induction before generalizing inside with
  | nil => exact ⟨rfl, h.1⟩
  | cons l before ih =>
    have hstep : (Scan.mk inside none).readLines (l :: before) =
        (Scan.mk (liveContent inside l).2
          (lineVerdict (liveContent inside l).2 (liveContent inside l).1)).readLines before := rfl
    rw [hstep] at hv ⊢
    rw [h.1.agrees.1] at hv ⊢
    cases hl : lineVerdict (endsInside inside l) (liveContent inside l).1 with
    | some m =>
      rw [hl, Scan.readLines_of_verdict rfl] at hv
      cases hv
    | none =>
      rw [hl] at hv
      exact ih h.2 hv

theorem SimpleLines.agree {inside : Bool} {lines : List Text} (h : SimpleLines inside lines) :
    (threaded inside lines).map (·.2) = flagsBehind inside lines ∧
    firstVerdict (threaded inside lines) =
      firstVerdict ((remainders inside lines).map fun t => (some t, false)) := by
  induction lines generalizing inside with
  | nil => exact ⟨rfl, rfl⟩
  | cons line rest ih =>
    obtain ⟨hflag, hverdict⟩ := h.1.agrees
    obtain ⟨hflags, hfirst⟩ := ih h.2
    rw [threaded, flagsBehind, remainders, hflag]
    refine ⟨by rw [List.map_cons, hflags, hflag], ?_⟩
    rw [List.map_cons, firstVerdict_cons, firstVerdict_cons, hverdict, hfirst]

/-- On a document of simple lines the scan refines the remover: after every line its flag says
whether the line ends inside a comment, and its answer is DTD exactly if, with the comments deleted,
some line speaks of a document type and in none before it the first `<` opens a tag; else XSD. -/
theorem scan_refines_removal {lines : List Text} (h : SimpleLines false lines) :
    (threaded false lines).map (·.2) = flagsBehind false lines ∧
    (modeOfLines lines = .dtd ↔ DoctypeFirst (remainders false lines)) ∧
    (¬ DoctypeFirst (remainders false lines) → modeOfLines lines = .xsd) ∧
    ∀ d text, documentLines text = lines →
      textOutcome d text = .ok (modeOfLines lines) := by
  obtain ⟨hflags, hfirst⟩ := h.agree
  have hmode : modeOfLines lines = .dtd ↔ DoctypeFirst (remainders false lines) := by
    rw [doctypeFirst_iff, ← firstVerdict_eq_dtd_iff, ← hfirst, firstVerdict_eq_dtd_iff]
    rcases modeOfLines_cases lines with ⟨hd, hm⟩ | ⟨hn, hm⟩
    · simp [hd, hm]
    · simp [hn, hm]
  refine ⟨hflags, hmode, fun hn => ?_, fun d text hl => by rw [textOutcome_eq, hl]⟩
  rcases modeOfLines_cases lines with ⟨-, hm⟩ | ⟨-, hm⟩
  · exact absurd (hmode.1 hm) hn
  · exact hm

/-- Lines of every simple kind: two comments, a comment left open, its inside and its end. -/
def simpleDocument : List Text := ["<?a?>", "<!--b--> <!--c-->", " <!--", "<d>", "-->DOCTYPE"]

theorem simpleLines_simpleDocument : SimpleLines false simpleDocument := by
  have htwo : Closes "b--> <!--c-->" :=
    @Closes.more "b" " " "c-->" (not_occurs rfl) (by decide +kernel)
      (@Closes.one "c" (not_occurs rfl))
  refine ⟨.unmarked (not_occurs rfl) (not_occurs rfl), ?_, ?_, ?_, ?_, trivial⟩
  · exact @Simple.around [] "b--> <!--c-->" [] (not_occurs rfl) htwo (not_occurs rfl)
  · exact @Simple.dangling " " [] rfl (.one (not_occurs rfl))
  · exact @Simple.within "<d>" (not_occurs rfl)
  · exact .closed (occursIn_iff.1 rfl) (not_occurs rfl)

theorem scan_refines_removal_simpleDocument :
    SimpleLines false simpleDocument ∧
    (threaded false simpleDocument).map (·.2) = flagsBehind false simpleDocument ∧
    modeOfLines simpleDocument = .dtd := by
  have h := scan_refines_removal simpleLines_simpleDocument
  have hno : ∀ u ∈ (["<?a?>", [], " ", []] : List Text), hasOpeningTag false u = false := by
    decide +kernel
  refine ⟨simpleLines_simpleDocument, h.1, h.2.1.2 ?_⟩
  refine ⟨["<?a?>", [], " ", []], doctype, [], by decide +kernel, List.infix_rfl, fun u hu ht => ?_⟩
  exact absurd (hasOpeningTag_iff.2 ht) (by rw [hno u hu]; exact nofun)

end SchemaGate.Detection
