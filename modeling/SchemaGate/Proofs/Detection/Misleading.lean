import SchemaGate.Proofs.Detection.CommentedDoctype

/-! Lines behind which the scan has lost the flag.

    The scan hands one flag from line to line. It should say whether the end of the line lies inside
    a comment, and does on most lines. Two kinds of line mislead it (`Misleads`). On the one, a
    comment is opened and left open behind text that the scan takes as it is. On the other, a comment
    ends before the line's first opening marker, and this marker shares its dashes with what looks
    like a closing one: the scan looks for the end of the earlier comment from that marker on, and
    finds it there. The flags of a document are right exactly if no line misleads
    (`flags_right_iff`). -/

namespace SchemaGate.Detection

/-- A comment of earlier lines ends on the line, the first opening marker stands behind that end,
and its dashes are those of `-->` as well; `u` is what follows. -/
def Straddles (inside : Bool) (line u : Text) : Prop :=
  inside = true ∧ ∃ body q m, line = body ++ (closing ++ q) ++ (opening ++ (m ++ u)) ∧
    ¬ closing <:+: body ∧ ¬ opening <:+: body ++ (closing ++ q) ∧ (m = ">" ∨ m = "->")

/-- A comment opens behind nothing but blanks, and it or one that follows it after blanks is left
open. -/
def Reopens (u : Text) : Prop :=
  ∃ gap rest, Gap gap ∧ u = gap ++ (opening ++ rest) ∧ LeavesOpen rest

/-- The lines behind which the scan has another flag than the text. -/
inductive Misleads : Bool → Text → Prop
  /-- What stands behind the stripped comments opens another one and leaves it open. -/
  | overlooked {inside : Bool} {line p s : Text} : Shows inside line p s →
      (∀ u, ¬ Straddles inside line u) → endsInside false s = true → Misleads inside line
  /-- The comment that the line opens is taken for closed at once. -/
  | straddled {inside : Bool} {line u : Text} : Straddles inside line u →
      ¬ (endsInside true u = true ↔ Reopens u) → Misleads inside line

/-! ### Lines that straddle -/

theorem Straddles.endsInside_eq {inside : Bool} {line u : Text} (h : Straddles inside line u) :
    endsInside inside line = endsInside true u := by
  obtain ⟨rfl, body, q, m, rfl, hb, ho, hm⟩ := h
  rw [List.append_assoc, List.append_assoc, endsInside_closing hb,
    endsInside_opening (not_opening_behind ho)]
  rcases hm with rfl | rfl <;> rfl

/-- The opening marker and what follows it, read from inside a comment: an end of that comment. -/
theorem Straddles.exists_closing {m : Text} (hm : m = ">" ∨ m = "->") (u : Text) :
    ∃ body, opening ++ (m ++ u) = body ++ (closing ++ u) ∧ ¬ closing <:+: body := by
  rcases hm with rfl | rfl
  · exact ⟨"<!", rfl, not_occurs rfl⟩
  · exact ⟨"<!-", rfl, not_occurs rfl⟩

theorem skipComments_reopens_iff {body u : Text} (hb : ¬ closing <:+: body) :
    (skipComments true (body ++ (closing ++ u))).2 = true ↔ Reopens u := by
  constructor
  · intro h
    cases hf : commentFollows u with
    | false =>
      rw [skipComments_last hb hf] at h
      cases h
    | true =>
      obtain ⟨gap, rest, hg, rfl⟩ := exists_gap_of_commentFollows hf
      rw [skipComments_next hb hg] at h
      rcases closes_or_leavesOpen rest with ⟨r, s, rfl, hr, hs⟩ | hopen
      · rw [hr.skipComments hs] at h
        cases h
      · exact ⟨gap, rest, hg, rfl, hopen⟩
  · rintro ⟨gap, rest, hg, rfl, hopen⟩
    rw [skipComments_next hb hg, hopen.skipComments]

theorem Straddles.flag_iff {inside : Bool} {line u : Text} (h : Straddles inside line u) :
    (liveContent inside line).2 = true ↔ Reopens u := by
  obtain ⟨rfl, body, q, m, rfl, -, ho, hm⟩ := h
  obtain ⟨front, hfront, hf⟩ := Straddles.exists_closing hm u
  rw [liveContent_of_opening ho, resumed, if_pos rfl, hfront]
  exact skipComments_reopens_iff hf

/-! ### Other lines -/

/-- Inside a comment, an opening marker that shares no dashes changes nothing. -/
theorem endsInside_opening_within {t : Text} (h : ∀ m u : Text, t = m ++ u → m ≠ ">" ∧ m ≠ "->") :
    endsInside true (opening ++ t) = endsInside true t := by
  have hlong : ¬ closing <+: .char '-' :: .char '-' :: t := by
    rintro ⟨u, hu⟩
    exact (h ">" u (by simpa [closing, Text.ofString] using hu.symm)).1 rfl
  have hshort : ¬ closing <+: .char '-' :: t := by
    rintro ⟨u, hu⟩
    exact (h "->" u (by simpa [closing, Text.ofString] using hu.symm)).2 rfl
  calc endsInside true (opening ++ t)
      = endsInside true (.char '-' :: .char '-' :: t) := rfl
    _ = endsInside true (.char '-' :: t) := endsInside_cons hlong
    _ = endsInside true t := endsInside_cons hshort

/-- Where nothing straddles, the scan may look for the end of the comment from where it does. -/
theorem endsInside_resumed {inside : Bool} {p t : Text} (hp : ¬ opening <:+: p)
    (h : ∀ u, ¬ Straddles inside (p ++ (opening ++ t)) u) :
    endsInside inside (p ++ (opening ++ t)) = endsInside true (resumed inside t) := by
  cases inside with
  | false => exact endsInside_opening hp t
  | true =>
    rw [resumed, if_pos rfl]
    by_cases hc : closing <:+: p
    · obtain ⟨body, q, rfl, hb⟩ := exists_cut unbordered_closing.1 hc
      have hdashes : ∀ m u : Text, t = m ++ u → m ≠ ">" ∧ m ≠ "->" := by
        rintro m u rfl
        exact ⟨fun hm => h u ⟨rfl, body, q, m, rfl, hb, hp, .inl hm⟩,
          fun hm => h u ⟨rfl, body, q, m, rfl, hb, hp, .inr hm⟩⟩
      rw [List.append_assoc, List.append_assoc, endsInside_closing hb,
        endsInside_opening (not_opening_behind hp), endsInside_opening_within hdashes]
    · have hless : .char '<' ∉ marker true := by decide
      exact endsInside_skip hless hc _

/-! ### One line and all of them -/

/-- The flag behind a line is right unless the line misleads. -/
theorem liveContent_flag_iff (inside : Bool) (line : Text) :
    (liveContent inside line).2 = endsInside inside line ↔ ¬ Misleads inside line := by
  constructor
  · intro hflag hm
    cases hm with
    | overlooked hshow hno hs =>
      obtain ⟨t, r, rfl, hp, hr, hc, hcf⟩ := hshow
      rw [(Reads.around hp hr hc hcf).liveContent_eq, endsInside_resumed hp hno, hr, hc.endsInside,
        hs] at hflag
      cases hflag
    | straddled hu hne =>
      rw [← hu.endsInside_eq, ← hflag, hu.flag_iff] at hne
      exact hne Iff.rfl
  · intro hm
    by_cases hs : ∃ u, Straddles inside line u
    · obtain ⟨u, hu⟩ := hs
      by_cases hiff : endsInside true u = true ↔ Reopens u
      · rw [hu.endsInside_eq, Bool.eq_iff_iff, hu.flag_iff, hiff]
      · exact absurd (.straddled hu hiff) hm
    · have hno := not_exists.1 hs
      obtain ⟨content, after, hread⟩ := exists_reads inside line
      rw [hread.liveContent_eq]
      cases hread with
      | unmarked ho hc =>
        cases inside with
        | false => exact (endsInside_of_not_opening ho).symm
        | true => exact (endsInside_of_not_closing hc).symm
      | stray ho hc => exact (endsInside_of_not_opening ho).symm
      | @closed body s ho hb =>
        rw [endsInside_closing hb, endsInside_of_not_opening (not_opening_behind ho)]
      | @around _ p t r s hp hr hc hcf =>
        rw [endsInside_resumed hp hno, hr, hc.endsInside]
        cases hopen : endsInside false s with
        | false => rfl
        | true => exact absurd (.overlooked ⟨t, r, rfl, hp, hr, hc, hcf⟩ hno hopen) hm
      | dangling hp ht =>
        rw [endsInside_resumed hp hno, ht.endsInside]

theorem threaded_flags_cons_iff {inside : Bool} {line : Text} {rest : List Text} :
    (threaded inside (line :: rest)).map (·.2) = flagsBehind inside (line :: rest) ↔
      ¬ Misleads inside line ∧
        (threaded (endsInside inside line) rest).map (·.2) =
          flagsBehind (endsInside inside line) rest := by
  rw [threaded, flagsBehind, List.map_cons, List.cons.injEq, liveContent_flag_iff]
  refine and_congr_right fun hm => ?_
  rw [(liveContent_flag_iff inside line).2 hm]

/-- After every line the scan's flag says whether the end of the line lies inside a comment, exactly
if no line, with the flag that the text has in front of it, misleads the scan. -/
theorem flags_right_iff (lines : List Text) :
    (threaded false lines).map (·.2) = flagsBehind false lines ↔
      ∀ before line after, lines = before ++ line :: after →
        ¬ Misleads (before.foldl endsInside false) line := by
  suffices h : ∀ inside, (threaded inside lines).map (·.2) = flagsBehind inside lines ↔
      ∀ before line after, lines = before ++ line :: after →
        ¬ Misleads (before.foldl endsInside inside) line from h false
  induction lines with
  | nil => simp [threaded, flagsBehind]
  | cons line rest ih =>
    intro inside
    rw [threaded_flags_cons_iff, ih]
    constructor
    · rintro ⟨hline, hrest⟩ before next after heq
      cases before with
      | nil =>
        cases heq
        exact hline
      | cons first before =>
        cases heq
        exact hrest before next after rfl
    · intro h
      refine ⟨h [] line rest rfl, fun before next after heq => ?_⟩
      exact h (line :: before) next after (by rw [heq, List.cons_append])

/-- Behind a comment that ends, another one opens on the same line. -/
def reopened : List Text := ["<!---->x<!--", "-->"]

theorem wellCommented_reopened : WellCommented (Text.join "\n" reopened) := by
  have hend : WellCommented [] := .plain (not_occurs rfl) (not_occurs rfl)
  have hsecond : WellCommented "x<!--\n-->" :=
    @WellCommented.comment "x" "\n" _ (not_occurs rfl) (not_occurs rfl) (not_occurs rfl) hend
  exact @WellCommented.comment [] [] _ (not_occurs rfl) (not_occurs rfl) (not_occurs rfl) hsecond

/-- Well-formed comments do not keep the flag right. -/
theorem flag_can_be_lost : ¬ ∀ lines, WellCommented (Text.join "\n" lines) →
    (threaded false lines).map (·.2) = flagsBehind false lines := by
  intro h
  have hflags := h reopened wellCommented_reopened
  have hscan : (threaded false reopened).map (·.2) = [false, false] := by decide +kernel
  have htext : flagsBehind false reopened = [true, false] := by decide +kernel
  rw [hscan, htext] at hflags
  cases hflags

end SchemaGate.Detection
