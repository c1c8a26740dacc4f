import SchemaGate.Text.Cut

/-! Where a pattern stands in a list.

    `dropPrefix?`, `cut?` and the two tests built on them are said again with the relations "is a
    prefix of" and "stands in". A pattern that shares no end with its own front (`Unbordered`) never
    overlaps itself, so a list is cut at a given place exactly when the pattern does not stand
    before that place. -/

namespace SchemaGate

variable {α : Type}

/-- An element of two lists in a row stands in the one or in the other. -/
theorem append_eq_append_cons {a b u v : List α} {c : α} (h : a ++ b = u ++ c :: v) :
    (∃ x, a = u ++ c :: x) ∨ ∃ w, u = a ++ w ∧ b = w ++ c :: v := by
  rcases List.append_eq_append_iff.1 h with ⟨w, hu, hb⟩ | ⟨x, ha, hv⟩
  · exact .inr ⟨w, hu, hb⟩
  · cases x with
    | nil => exact .inr ⟨[], by rw [ha, List.append_nil, List.append_nil], hv.symm⟩
    | cons d x =>
      cases hv
      exact .inl ⟨x, ha⟩

/-! ### Patterns that do not overlap themselves -/

/-- No proper part of the pattern stands both at its front and at its end. -/
def Unbordered (p : List α) : Prop :=
  p ≠ [] ∧ ∀ n < p.length, 0 < n → p.take n ≠ p.drop (p.length - n)

theorem Unbordered.eq_nil {p x y : List α} (hp : Unbordered p) (hxy : p = x ++ y) (hx : x ≠ [])
    (hy : y <+: p) : y = [] := by
  have hlen : p.length = x.length + y.length := by rw [hxy, List.length_append]
  have hpos := List.length_pos_iff.2 hx
  refine Decidable.byContradiction fun hne => hp.2 y.length (by omega) (List.length_pos_iff.2 hne) ?_
  rw [← List.prefix_iff_eq_take.1 hy, show p.length - y.length = x.length by omega, hxy,
    List.drop_left]

/-- Two first occurrences are one: nothing but the empty list fits between their places. -/
theorem Unbordered.between_eq_nil {p x after rest : List α} (hp : Unbordered p)
    (h : p ++ after = x ++ (p ++ rest)) (hx : ¬ p <:+: x) : x = [] := by
  rcases List.append_eq_append_iff.1 h with ⟨y, hxy, -⟩ | ⟨y, hpy, hr⟩
  · exact absurd ⟨[], y, by rw [hxy, List.nil_append]⟩ hx
  · refine Decidable.byContradiction fun hne => hx ?_
    have hy : y <+: p := by
      refine List.prefix_of_prefix_length_le ⟨after, hr.symm⟩ (List.prefix_append p rest) ?_
      rw [hpy, List.length_append]
      omega
    rw [hp.eq_nil hpy hne hy, List.append_nil] at hpy
    subst hpy
    exact List.infix_rfl

/-- A front part of the pattern does not complete an occurrence. -/
theorem Unbordered.not_infix_append {p before q : List α} (hp : Unbordered p)
    (hb : ¬ p <:+: before) (hq : q <+: p) (hlt : q.length < p.length) : ¬ p <:+: before ++ q := by
  rw [List.infix_append_iff_ne_nil]
  rintro (h | h | ⟨x, y, hx, hy, hxy, -, hpre⟩)
  · exact hb h
  · exact absurd h.length_le (by omega)
  · exact hy (hp.eq_nil hxy hx (hpre.trans hq))

/-- A pattern at the start of a list does not reach past an element that it does not hold. -/
theorem prefix_of_not_mem {p x y : List α} {d : α} (h : p <+: x ++ d :: y) (hd : d ∉ p) :
    p <+: x := by
  have hx : x ++ [d] <+: x ++ d :: y := ⟨y, by rw [List.append_assoc, List.singleton_append]⟩
  rcases List.prefix_or_prefix_of_prefix h hx with hp | hp
  · rcases List.prefix_concat_iff.1 hp with rfl | hp
    · exact absurd (by simp) hd
    · exact hp
  · exact absurd (hp.subset (by simp)) hd

variable [DecidableEq α]

instance (p : List α) : Decidable (Unbordered p) := inferInstanceAs (Decidable (_ ∧ _))

/-! ### The tests as relations -/

theorem dropPrefix?_append (p s : List α) : dropPrefix? p (p ++ s) = some s := by
  induction p with
  | nil => rfl
  | cons x ps ih => simpa [dropPrefix?] using ih

theorem dropPrefix?_eq_none_iff {p s : List α} : dropPrefix? p s = none ↔ ¬ p <+: s := by
  constructor
  · rintro h ⟨t, rfl⟩
    rw [dropPrefix?_append] at h
    cases h
  · intro h
    cases hd : dropPrefix? p s with
    | none => rfl
    | some after => exact absurd ⟨after, (dropPrefix?_eq_some hd).symm⟩ h

theorem startsWith_iff {p s : List α} : startsWith p s = true ↔ p <+: s := by
  rw [startsWith, Option.isSome_iff_ne_none, ne_eq, dropPrefix?_eq_none_iff, Decidable.not_not]

theorem cut?_eq_none_iff {p s : List α} : cut? p s = none ↔ ¬ p <:+: s := by
  induction s with
  | nil => rw [cut?, Option.map_eq_none_iff, dropPrefix?_eq_none_iff, List.prefix_nil, List.infix_nil]
  | cons c s ih =>
    rw [cut?, List.infix_cons_iff, not_or]
    cases hd : dropPrefix? p (c :: s) with
    | none =>
      have hp : ¬ p <+: c :: s := dropPrefix?_eq_none_iff.1 hd
      simp only [Option.map_eq_none_iff, ih, hp, not_false_eq_true, true_and]
    | some after =>
      have hp : p <+: c :: s := ⟨after, (dropPrefix?_eq_some hd).symm⟩
      simp only [hp, not_true_eq_false, false_and, reduceCtorEq]

theorem occursIn_iff {p s : List α} : occursIn p s = true ↔ p <:+: s := by
  rw [occursIn, Option.isSome_iff_ne_none, ne_eq, cut?_eq_none_iff, Decidable.not_not]

theorem not_infix_of_cut? {p s before after : List α} (hp : p ≠ [])
    (h : cut? p s = some (before, after)) : ¬ p <:+: before := by
  induction s generalizing before with
  | nil =>
    obtain ⟨r, -, he⟩ := Option.map_eq_some_iff.1 h
    cases he
    rwa [List.infix_nil]
  | cons c s ih =>
    have hs := cut?_eq_some h
    rw [cut?] at h
    split at h
    · cases h
      rwa [List.infix_nil]
    · next hd =>
      obtain ⟨⟨b, a⟩, hba, he⟩ := Option.map_eq_some_iff.1 h
      cases he
      rw [List.infix_cons_iff, not_or]
      refine ⟨fun hpre => dropPrefix?_eq_none_iff.1 hd (hpre.trans ?_), ih hba⟩
      exact ⟨p ++ after, by rw [hs, List.append_assoc]⟩

/-! ### Cutting at a place -/

/-- A list is cut where the pattern stands and does not stand before. -/
theorem cut?_append {p before : List α} (hp : Unbordered p) (hb : ¬ p <:+: before)
    (after : List α) : cut? p (before ++ (p ++ after)) = some (before, after) := by
  cases h : cut? p (before ++ (p ++ after)) with
  | none => exact absurd (List.infix_append' ..) (cut?_eq_none_iff.1 h)
  | some r =>
    obtain ⟨b, a⟩ := r
    have hb' := not_infix_of_cut? hp.1 h
    have hs := cut?_eq_some h
    rw [List.append_assoc] at hs
    have heq : before = b := by
      rcases List.append_eq_append_iff.1 hs with ⟨x, hx, hr⟩ | ⟨x, hx, hr⟩
      · have hn : x = [] := hp.between_eq_nil hr fun hi => hb' (hx ▸ hi.trans List.infix_append_right)
        rw [hx, hn, List.append_nil]
      · have hn : x = [] := hp.between_eq_nil hr fun hi => hb (hx ▸ hi.trans List.infix_append_right)
        rw [hx, hn, List.append_nil]
    rw [heq, List.append_cancel_left_eq, List.append_cancel_left_eq] at hs
    rw [heq, hs]

/-- There is one first occurrence. -/
theorem append_inj_of_not_infix {p b b' a a' : List α} (hp : Unbordered p) (hb : ¬ p <:+: b)
    (hb' : ¬ p <:+: b') (h : b ++ (p ++ a) = b' ++ (p ++ a')) : b = b' ∧ a = a' := by
  have hc := cut?_append hp hb a
  rw [h, cut?_append hp hb' a', Option.some.injEq, Prod.mk.injEq] at hc
  exact ⟨hc.1.symm, hc.2.symm⟩

/-- Before its first occurrence the pattern does not start. -/
theorem not_prefix_append {p before : List α} {c : α} (hp : Unbordered p)
    (hb : ¬ p <:+: c :: before) (after : List α) : ¬ p <+: c :: (before ++ (p ++ after)) := by
  intro h
  have hc := cut?_append hp hb after
  rw [List.cons_append, cut?] at hc
  split at hc
  · cases hc
  · next hd => exact dropPrefix?_eq_none_iff.1 hd h

theorem not_occurs {p s : List α} (h : occursIn p s = false) : ¬ p <:+: s := fun hi => by
  rw [occursIn_iff.2 hi] at h
  cases h

/-- A list with a pattern in it, in pieces around the first occurrence. -/
theorem exists_cut {p s : List α} (hp : p ≠ []) (h : p <:+: s) :
    ∃ before after, s = before ++ (p ++ after) ∧ ¬ p <:+: before := by
  cases hc : cut? p s with
  | none => exact absurd h (cut?_eq_none_iff.1 hc)
  | some r =>
    refine ⟨r.1, r.2, ?_, not_infix_of_cut? hp hc⟩
    rw [← List.append_assoc]
    exact cut?_eq_some hc

end SchemaGate
