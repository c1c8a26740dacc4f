import SchemaGate.Detection.Comment
import SchemaGate.Proofs.Text.Occurrence

/-! What reading one line gives, in terms of how its markers stand.

    A text that starts inside a comment either closes it, and every comment behind it that only
    blanks divide from the one before (`Closes`), or leaves the last of them open (`LeavesOpen`).
    With these two a line can stand in five ways, one constructor of `Reads` each. The reader takes
    exactly the way a line stands in (`reads_iff`), so later proofs go by cases on `Reads` and never
    unfold the reader. -/

namespace SchemaGate.Detection

/-- Nothing but characters up to the space. -/
def Gap (t : Text) : Prop := ∀ c ∈ t, c.isLow = true

instance (t : Text) : Decidable (Gap t) := inferInstanceAs (Decidable (∀ c ∈ t, c.isLow = true))

/-- The text, read from inside a comment, ends with the end of a comment: of the one that it starts
in, or of one that follows after blanks. -/
inductive Closes : Text → Prop
  | one {body : Text} : ¬ closing <:+: body → Closes (body ++ closing)
  | more {body gap rest : Text} : ¬ closing <:+: body → Gap gap → Closes rest →
      Closes (body ++ (closing ++ (gap ++ (opening ++ rest))))

/-- The text, read from inside a comment, ends inside one: inside the one that it starts in, or
inside one that follows the closed ones after blanks. -/
inductive LeavesOpen : Text → Prop
  | one {body : Text} : ¬ closing <:+: body → LeavesOpen body
  | more {body gap rest : Text} : ¬ closing <:+: body → Gap gap → LeavesOpen rest →
      LeavesOpen (body ++ (closing ++ (gap ++ (opening ++ rest))))

/-- Where the search for a closing marker starts on a line whose first opening marker stands before
`t`: behind that marker, but at it if the line itself starts inside a comment. -/
def resumed (inside : Bool) (t : Text) : Text := if inside then opening ++ t else t

/-- The ways a line can stand, each with the live content and the flag that it leaves. -/
inductive Reads : Bool → Text → Option Text → Bool → Prop
  | unmarked {inside : Bool} {line : Text} : ¬ opening <:+: line → ¬ closing <:+: line →
      Reads inside line (some line) inside
  | stray {line : Text} : ¬ opening <:+: line → closing <:+: line → Reads false line none false
  | closed {body s : Text} : ¬ opening <:+: body ++ (closing ++ s) → ¬ closing <:+: body →
      Reads true (body ++ (closing ++ s)) (some s) false
  | around {inside : Bool} {p t r s : Text} : ¬ opening <:+: p → resumed inside t = r ++ s →
      Closes r → commentFollows s = false → Reads inside (p ++ (opening ++ t)) (some (p ++ s)) false
  | dangling {inside : Bool} {p t : Text} : ¬ opening <:+: p → LeavesOpen (resumed inside t) →
      Reads inside (p ++ (opening ++ t)) none true

/-! ### Markers and gaps -/

theorem unbordered_marker (inside : Bool) : Unbordered (marker inside) := by
  cases inside <;> decide

theorem unbordered_opening : Unbordered opening := unbordered_marker false

theorem unbordered_closing : Unbordered closing := unbordered_marker true

theorem Gap.not_opening {gap : Text} (h : Gap gap) : ¬ opening <:+: gap := by
  intro ho
  have hm : (.char '<' : CodePoint) ∈ gap := ho.subset (by simp [opening])
  exact absurd (h _ hm) (by decide)

theorem gap_nil : Gap [] := fun _ hc => nomatch hc

theorem commentFollows_append {gap : Text} (h : Gap gap) (rest : Text) :
    commentFollows (gap ++ (opening ++ rest)) = true := by
  rw [commentFollows, List.dropWhile_append_of_pos h]
  rfl

theorem exists_gap_of_commentFollows {rest : Text} (h : commentFollows rest = true) :
    ∃ gap after, Gap gap ∧ rest = gap ++ (opening ++ after) := by
  obtain ⟨after, ha⟩ := startsWith_iff.1 h
  refine ⟨rest.takeWhile CodePoint.isLow, after, fun c hc => ?_, ?_⟩
  · exact List.all_eq_true.1 List.all_takeWhile c hc
  · rw [ha, List.takeWhile_append_dropWhile]

/-- Where there is no opening marker, there is none behind a comment either. -/
theorem not_opening_behind {body rest : Text} (h : ¬ opening <:+: body ++ (closing ++ rest)) :
    ¬ opening <:+: rest := by
  intro hrest
  exact h (hrest.trans (List.infix_append_right.trans List.infix_append_right))

theorem commentFollows_of_not_opening {rest : Text} (h : ¬ opening <:+: rest) :
    commentFollows rest = false := by
  refine Bool.eq_false_iff.2 fun hf => h ?_
  obtain ⟨gap, after, -, rfl⟩ := exists_gap_of_commentFollows hf
  exact List.infix_append' ..

/-! ### One step of the search for markers -/

theorem skipComments_of_cut? (inside : Bool) {rest before after : Text}
    (h : cut? (marker inside) rest = some (before, after)) :
    skipComments inside rest =
      if inside && !commentFollows after then (some after, false)
      else skipComments (!inside) after := by
  rw [skipComments]
  split
  · next hn => rw [h] at hn; cases hn
  · next hs => rw [h] at hs; cases hs; rfl

theorem skipComments_of_not_marker (inside : Bool) {rest : Text}
    (h : ¬ marker inside <:+: rest) : skipComments inside rest = (none, inside) := by
  have hn := cut?_eq_none_iff.2 h
  rw [skipComments]
  split
  · rfl
  · next hs => rw [hn] at hs; cases hs

/-- From outside a comment, the blanks before the next one are passed over. -/
theorem skipComments_gap {gap : Text} (h : Gap gap) (rest : Text) :
    skipComments false (gap ++ (opening ++ rest)) = skipComments true rest :=
  skipComments_of_cut? false (cut?_append unbordered_opening h.not_opening rest)

theorem skipComments_last {body s : Text} (hb : ¬ closing <:+: body)
    (hs : commentFollows s = false) : skipComments true (body ++ (closing ++ s)) = (some s, false) := by
  rw [skipComments_of_cut? true (cut?_append unbordered_closing hb s), hs]
  rfl

theorem skipComments_next {body gap rest : Text} (hb : ¬ closing <:+: body) (hg : Gap gap) :
    skipComments true (body ++ (closing ++ (gap ++ (opening ++ rest)))) = skipComments true rest := by
  rw [skipComments_of_cut? true (cut?_append unbordered_closing hb _),
    commentFollows_append hg]
  exact skipComments_gap hg rest

/-! ### The whole search -/

theorem Closes.skipComments {r s : Text} (h : Closes r) (hs : commentFollows s = false) :
    skipComments true (r ++ s) = (some s, false) := by
  induction h with
  | one hb =>
    rw [List.append_assoc]
    exact skipComments_last hb hs
  | more hb hg _ ih =>
    simp only [List.append_assoc]
    rw [skipComments_next hb hg, ih]

theorem LeavesOpen.skipComments {t : Text} (h : LeavesOpen t) :
    skipComments true t = (none, true) := by
  induction h with
  | one hb => exact skipComments_of_not_marker true hb
  | more hb hg _ ih => rw [skipComments_next hb hg, ih]

theorem Closes.closing_occurs {r : Text} (h : Closes r) : closing <:+: r := by
  cases h with
  | one _ => exact List.infix_append_right
  | more _ _ _ => exact List.infix_append' ..

/-- A text that starts inside a comment closes it or leaves one open. -/
theorem closes_or_leavesOpen (t : Text) :
    (∃ r s, t = r ++ s ∧ Closes r ∧ commentFollows s = false) ∨ LeavesOpen t := by
  by_cases hc : closing <:+: t
  · obtain ⟨body, after, ht, hb⟩ := exists_cut unbordered_closing.1 hc
    cases hf : commentFollows after with
    | false => exact .inl ⟨body ++ closing, after, by rw [ht, List.append_assoc], .one hb, hf⟩
    | true =>
      obtain ⟨gap, rest, hg, ha⟩ := exists_gap_of_commentFollows hf
      have hlt : rest.length < t.length := by
        rw [ht, ha]
        simp only [List.length_append, opening, List.length_cons]
        omega
      rw [ht, ha]
      rcases closes_or_leavesOpen rest with ⟨r, s, rfl, hr, hs⟩ | ho
      · exact .inl ⟨_, s, by simp only [List.append_assoc], .more hb hg hr, hs⟩
      · exact .inr (.more hb hg ho)
  · exact .inr (.one hc)
termination_by t.length

/-! ### The whole line -/

theorem liveContent_of_opening {p : Text} (hp : ¬ opening <:+: p) (inside : Bool) (t : Text) :
    liveContent inside (p ++ (opening ++ t)) =
      ((skipComments true (resumed inside t)).1.map (p ++ ·),
        (skipComments true (resumed inside t)).2) := by
  have hs : skipComments inside (opening ++ t) = skipComments true (resumed inside t) := by
    cases inside with
    | false => exact skipComments_gap gap_nil t
    | true => rfl
  rw [liveContent, cut?_append unbordered_opening hp]
  simp only [hs]

theorem liveContent_of_not_opening {line : Text} (ho : ¬ opening <:+: line) (inside : Bool) :
    liveContent inside line =
      if occursIn closing line then skipComments inside line else (some line, inside) := by
  rw [liveContent, cut?_eq_none_iff.2 ho]

theorem Reads.liveContent_eq {inside after : Bool} {line : Text} {content : Option Text}
    (h : Reads inside line content after) : liveContent inside line = (content, after) := by
  cases h with
  | unmarked ho hc =>
    rw [liveContent_of_not_opening ho, if_neg (fun hi => hc (occursIn_iff.1 hi))]
  | stray ho hc =>
    rw [liveContent_of_not_opening ho, if_pos (occursIn_iff.2 hc)]
    exact skipComments_of_not_marker false ho
  | @closed body s ho hb =>
    rw [liveContent_of_not_opening ho, if_pos (occursIn_iff.2 (List.infix_append' ..))]
    exact skipComments_last hb (commentFollows_of_not_opening (not_opening_behind ho))
  | around hp hr hc hs => rw [liveContent_of_opening hp, hr, hc.skipComments hs]; rfl
  | dangling hp hl => rw [liveContent_of_opening hp, hl.skipComments]; rfl

/-- Every line stands in one of the ways. -/
theorem exists_reads (inside : Bool) (line : Text) : ∃ content after, Reads inside line content after := by
  by_cases ho : opening <:+: line
  · obtain ⟨p, t, rfl, hp⟩ := exists_cut unbordered_opening.1 ho
    rcases closes_or_leavesOpen (resumed inside t) with ⟨r, s, hr, hc, hs⟩ | hl
    · exact ⟨_, _, .around hp hr hc hs⟩
    · exact ⟨_, _, .dangling hp hl⟩
  · by_cases hc : closing <:+: line
    · cases inside with
      | false => exact ⟨_, _, .stray ho hc⟩
      | true =>
        obtain ⟨body, s, rfl, hb⟩ := exists_cut unbordered_closing.1 hc
        exact ⟨_, _, .closed ho hb⟩
    · exact ⟨_, _, .unmarked ho hc⟩

/-- The reader answers what the way of the line says. -/
theorem reads_iff {inside after : Bool} {line : Text} {content : Option Text} :
    Reads inside line content after ↔ liveContent inside line = (content, after) := by
  refine ⟨Reads.liveContent_eq, fun h => ?_⟩
  obtain ⟨c, a, hr⟩ := exists_reads inside line
  rw [hr.liveContent_eq, Prod.mk.injEq] at h
  rw [← h.1, ← h.2]
  exact hr

end SchemaGate.Detection
