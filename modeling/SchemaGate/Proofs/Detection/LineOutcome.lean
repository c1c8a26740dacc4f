import SchemaGate.Proofs.Detection.LineReading

/-! What can come of one line.

    A line with a marker is searched from its first opening marker on, or from its start if it has
    none. The search goes from marker to marker, and behind each one less text is left, so it ends
    (`search_iff`, `Search.shrinks`). There are three ways for it to end, and each line with a marker
    goes exactly one of them (`line_goes_one_way`): the text runs out inside a comment, it runs out
    outside of comments, or something else than a comment follows an end of a comment. -/

namespace SchemaGate.Detection

/-- `Search inside rest trail result`: from one marker to the next, the search leaves the texts of the
trail behind the markers, and ends with the result. -/
inductive Search : Bool → Text → List Text → Option Text × Bool → Prop
  /-- The next marker is missing. -/
  | exhausted {inside : Bool} {rest : Text} : ¬ marker inside <:+: rest →
      Search inside rest [] (none, inside)
  /-- A comment ends, and no other one follows. -/
  | settled {body after : Text} : ¬ closing <:+: body → commentFollows after = false →
      Search true (body ++ (closing ++ after)) [after] (some after, false)
  /-- A comment opens, or one ends and another one follows. -/
  | next {inside : Bool} {before after : Text} {trail : List Text} {result : Option Text × Bool} :
      ¬ marker inside <:+: before → (inside = true → commentFollows after = true) →
      Search (!inside) after trail result →
      Search inside (before ++ (marker inside ++ after)) (after :: trail) result

/-- The text in front of the first opening marker; there is none if that is missing. -/
def front (line : Text) : Text :=
  match cut? opening line with
  | some (before, _) => before
  | none => []

/-- The line from its first opening marker on, or from its start if it has none. -/
def searched (line : Text) : Text :=
  match cut? opening line with
  | some (_, after) => opening ++ after
  | none => line

/-- The ways that a line with a marker can go. -/
inductive Way where
  /-- Nothing is live, and the line ends inside a comment. -/
  | leftOpen
  /-- Nothing is live, and the line ends outside of comments. -/
  | strayEnd
  /-- The text in front of the comments and the text behind them are live. -/
  | live

/-- `Goes inside line way`: the line goes that way. What is live behind the comments follows a closing
marker of the searched part, and no comment follows it, blanks aside. -/
def Goes (inside : Bool) (line : Text) : Way → Prop
  | .leftOpen => liveContent inside line = (none, true)
  | .strayEnd => liveContent inside line = (none, false)
  | .live => ∃ s, liveContent inside line = (some (front line ++ s), false) ∧
      (∃ skipped, searched line = skipped ++ (closing ++ s)) ∧ ¬ opening <+: s.dropWhile CodePoint.isLow

/-! ### The search -/

theorem length_lt_behind_marker (inside : Bool) (before after : Text) :
    after.length < (before ++ (marker inside ++ after)).length := by
  have := List.length_pos_iff.2 (marker_ne_nil inside)
  simp only [List.length_append]
  omega

theorem Search.skipComments_eq {inside : Bool} {rest : Text} {trail : List Text}
    {result : Option Text × Bool} (h : Search inside rest trail result) :
    skipComments inside rest = result := by
  induction h with
  | exhausted h => exact skipComments_of_not_marker _ h
  | settled hb hf => exact skipComments_last hb hf
  | @next inside before after trail result hb hf _ ih =>
    have hgoes : (inside && !commentFollows after) = false := by
      cases inside with
      | false => rfl
      | true => rw [hf rfl]; rfl
    rw [skipComments_of_cut? inside (cut?_append (unbordered_marker inside) hb after), hgoes, ← ih]
    rfl

/-- Behind each marker less text is left than before. -/
theorem Search.shrinks {inside : Bool} {rest : Text} {trail : List Text} {result : Option Text × Bool}
    (h : Search inside rest trail result) :
    (rest :: trail).Pairwise fun a b => b.length < a.length := by
  induction h with
  | exhausted => exact List.pairwise_singleton _ _
  | @settled body after _ _ =>
    refine List.pairwise_cons.2 ⟨fun t ht => ?_, List.pairwise_singleton _ _⟩
    rw [List.mem_singleton.1 ht]
    exact length_lt_behind_marker true body after
  | @next inside before after trail result _ _ _ ih =>
    refine List.pairwise_cons.2 ⟨fun t ht => ?_, ih⟩
    rcases List.mem_cons.1 ht with rfl | ht
    · exact length_lt_behind_marker inside before _
    · exact Nat.lt_trans (List.rel_of_pairwise_cons ih ht) (length_lt_behind_marker inside before after)

theorem exists_search (inside : Bool) (rest : Text) :
    ∃ trail result, Search inside rest trail result := by
  by_cases hm : marker inside <:+: rest
  · obtain ⟨before, after, hrest, hb⟩ := exists_cut (marker_ne_nil inside) hm
    have hlt : after.length < rest.length := by
      rw [hrest]
      exact length_lt_behind_marker inside before after
    rw [hrest]
    by_cases hgoes : inside = true → commentFollows after = true
    · obtain ⟨trail, result, hsearch⟩ := exists_search (!inside) after
      exact ⟨_, _, .next hb hgoes hsearch⟩
    · obtain ⟨rfl, hf⟩ := Classical.not_imp.1 hgoes
      exact ⟨_, _, .settled hb (Bool.eq_false_iff.2 hf)⟩
  · exact ⟨_, _, .exhausted hm⟩
termination_by rest.length

/-- The search ends, and with the answer of the reader. -/
theorem search_iff {inside : Bool} {rest : Text} {result : Option Text × Bool} :
    (∃ trail, Search inside rest trail result) ↔ skipComments inside rest = result := by
  constructor
  · rintro ⟨trail, h⟩
    exact h.skipComments_eq
  · rintro rfl
    obtain ⟨trail, result, h⟩ := exists_search inside rest
    exact ⟨trail, h.skipComments_eq ▸ h⟩

/-! ### The parts of a line -/

theorem front_append {p : Text} (hp : ¬ opening <:+: p) (t : Text) :
    front (p ++ (opening ++ t)) = p ∧ searched (p ++ (opening ++ t)) = opening ++ t := by
  rw [front, searched, cut?_append unbordered_opening hp]
  exact ⟨rfl, rfl⟩

theorem front_of_not_opening {line : Text} (h : ¬ opening <:+: line) :
    front line = [] ∧ searched line = line := by
  rw [front, searched, cut?_eq_none_iff.2 h]
  exact ⟨rfl, rfl⟩

theorem liveContent_of_marker (inside : Bool) {line : Text}
    (h : opening <:+: line ∨ closing <:+: line) :
    liveContent inside line = ((skipComments inside (searched line)).1.map (front line ++ ·),
      (skipComments inside (searched line)).2) := by
  by_cases ho : opening <:+: line
  · obtain ⟨p, t, rfl, hp⟩ := exists_cut unbordered_opening.1 ho
    rw [(front_append hp t).1, (front_append hp t).2, liveContent, cut?_append unbordered_opening hp]
  · rw [liveContent_of_not_opening ho, if_pos (occursIn_iff.2 (h.resolve_left ho)),
      (front_of_not_opening ho).1, (front_of_not_opening ho).2]
    simp

theorem Closes.exists_closing {r : Text} (h : Closes r) : ∃ x, r = x ++ closing := by
  induction h with
  | @one body _ => exact ⟨body, rfl⟩
  | @more body gap rest _ _ _ ih =>
    obtain ⟨x, rfl⟩ := ih
    exact ⟨body ++ (closing ++ (gap ++ (opening ++ x))), by simp only [List.append_assoc]⟩

/-! ### The ways of a line -/

/-- A reading with nothing live outside of comments is that of a stray end of a comment. -/
theorem liveContent_eq_stray_iff {inside : Bool} {line : Text} :
    liveContent inside line = (none, false) ↔
      inside = false ∧ closing <:+: line ∧ ¬ opening <:+: line := by
  rw [← reads_iff]
  constructor
  · intro h
    cases h with
    | stray ho hc => exact ⟨rfl, hc, ho⟩
  · rintro ⟨rfl, hc, ho⟩
    exact .stray ho hc

/-- A reading with something live inside a comment is that of a line without markers. -/
theorem liveContent_eq_within_iff {inside : Bool} {line content : Text} :
    liveContent inside line = (some content, true) ↔
      inside = true ∧ content = line ∧ ¬ opening <:+: line ∧ ¬ closing <:+: line := by
  rw [← reads_iff]
  constructor
  · intro h
    cases h with
    | unmarked ho hc => exact ⟨rfl, rfl, ho, hc⟩
  · rintro ⟨rfl, rfl, ho, hc⟩
    exact .unmarked ho hc

theorem exists_goes (inside : Bool) {line : Text} (h : opening <:+: line ∨ closing <:+: line) :
    ∃ way, Goes inside line way := by
  obtain ⟨content, after, hread⟩ := exists_reads inside line
  have heq := hread.liveContent_eq
  cases hread with
  | unmarked ho hc => exact (h.elim ho hc).elim
  | stray ho hc => exact ⟨.strayEnd, heq⟩
  | dangling hp hl => exact ⟨.leftOpen, heq⟩
  | @closed body s ho hb =>
    obtain ⟨hfront, hsearched⟩ := front_of_not_opening ho
    have hf := commentFollows_of_not_opening (not_opening_behind ho)
    refine ⟨.live, s, by rw [heq, hfront]; rfl, ⟨body, hsearched⟩, fun hs => ?_⟩
    rw [commentFollows, startsWith_iff.2 hs] at hf
    cases hf
  | @around _ p t r s hp hr hc hf =>
    obtain ⟨hfront, hsearched⟩ := front_append hp t
    obtain ⟨x, rfl⟩ := hc.exists_closing
    refine ⟨.live, s, by rw [heq, hfront], ?_, fun hs => ?_⟩
    · -- inside a comment the opening marker in front belongs to the text of the comment
      rw [hsearched]
      cases inside with
      | false => exact ⟨opening ++ x, by rw [show t = _ from hr]; simp only [List.append_assoc]⟩
      | true => exact ⟨x, by rw [show opening ++ t = _ from hr]; simp only [List.append_assoc]⟩
    · rw [commentFollows, startsWith_iff.2 hs] at hf
      cases hf

theorem Goes.unique {inside : Bool} {line : Text} {a b : Way} (ha : Goes inside line a)
    (hb : Goes inside line b) : a = b := by
  cases a <;> cases b <;> simp_all [Goes]

/-- Whatever flag a line starts with, the search of it ends, leaving less text behind each marker, and
gives what is live of a line with a marker behind the text in front of its first opening marker. A line
without markers is live as it is and keeps the flag. Any other line goes exactly one way; it has
nothing live and ends outside of comments just if it starts there and has a closing marker but no
opening one. So something is live inside a comment only on a line without markers that starts there. -/
theorem line_goes_one_way (inside : Bool) (line : Text) :
    (∃ trail result, Search inside (searched line) trail result ∧
      ((searched line :: trail).Pairwise fun a b => b.length < a.length) ∧
      (opening <:+: line ∨ closing <:+: line →
        liveContent inside line = (result.1.map (front line ++ ·), result.2))) ∧
    (¬ opening <:+: line → ¬ closing <:+: line → liveContent inside line = (some line, inside)) ∧
    (opening <:+: line ∨ closing <:+: line →
      ∃ way, Goes inside line way ∧ ∀ other, Goes inside line other → other = way) ∧
    (Goes inside line .strayEnd ↔ inside = false ∧ closing <:+: line ∧ ¬ opening <:+: line) ∧
    ∀ content, liveContent inside line = (some content, true) ↔
      inside = true ∧ content = line ∧ ¬ opening <:+: line ∧ ¬ closing <:+: line := by
  refine ⟨?_, fun ho hc => (Reads.unmarked ho hc).liveContent_eq, fun h => ?_, liveContent_eq_stray_iff,
    fun _ => liveContent_eq_within_iff⟩
  · obtain ⟨trail, hsearch⟩ := search_iff.2 (show skipComments inside (searched line) = _ from rfl)
    exact ⟨trail, _, hsearch, hsearch.shrinks, liveContent_of_marker inside⟩
  · obtain ⟨way, hway⟩ := exists_goes inside h
    exact ⟨way, hway, fun _ hother => hother.unique hway⟩

end SchemaGate.Detection
