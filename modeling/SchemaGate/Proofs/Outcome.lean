import SchemaGate.Failure

/-! Outcomes that are well.

    Where one step follows another, all has gone well only if each step has; so an outcome that is well
    can be read back to what the steps came to. -/

namespace SchemaGate.Outcome

variable {ε α β : Type}

theorem ok_bind (a : α) (f : α → Except ε β) : (.ok a : Except ε α) >>= f = f a := rfl

theorem bind_eq_ok {x : Except ε α} {f : α → Except ε β} {b : β} :
    x >>= f = .ok b ↔ ∃ a, x = .ok a ∧ f a = .ok b := by
  cases x <;> simp [bind, Except.bind]

theorem map_eq_ok {x : Except ε α} {f : α → β} {b : β} :
    x.map f = .ok b ↔ ∃ a, x = .ok a ∧ f a = b := by
  cases x <;> simp [Except.map]

theorem eq_ok_of_toOption {x : Except ε α} {a : α} (h : x.toOption = some a) : x = .ok a := by
  cases x with
  | error e => cases h
  | ok b => exact congrArg Except.ok (Option.some.inj h)

/-- All has gone well in a list of steps if each step has. -/
theorem mapM_eq_ok {f : α → Except ε β} {items : List α} {results : List β} :
    items.mapM f = .ok results ↔ items.map f = results.map .ok := by
  induction items generalizing results with
  | nil => cases results <;> simp [pure, Except.pure]
  | cons a items ih =>
    rw [List.mapM_cons, bind_eq_ok, List.map_cons]
    constructor
    · rintro ⟨b, ha, h⟩
      obtain ⟨rest, hrest, ⟨⟩⟩ := bind_eq_ok.1 h
      rw [ha, ih.1 hrest, List.map_cons]
    · intro h
      obtain ⟨b, rest, rfl⟩ : ∃ b rest, results = b :: rest := by
        cases results with
        | nil => cases h
        | cons b rest => exact ⟨b, rest, rfl⟩
      obtain ⟨ha, hrest⟩ := List.cons.inj h
      refine ⟨b, ha, ?_⟩
      rw [ih.2 hrest]
      rfl

theorem exists_mapM_eq_ok {f : α → Except ε β} {items : List α} :
    (∃ results, items.mapM f = .ok results) ↔ ∀ a ∈ items, ∃ b, f a = .ok b := by
  constructor
  · rintro ⟨results, h⟩ a ha
    have hmem : f a ∈ results.map .ok := mapM_eq_ok.1 h ▸ List.mem_map_of_mem ha
    obtain ⟨b, -, hb⟩ := List.mem_map.1 hmem
    exact ⟨b, hb.symm⟩
  · intro h
    induction items with
    | nil => exact ⟨[], rfl⟩
    | cons a items ih =>
      rw [List.forall_mem_cons] at h
      obtain ⟨⟨b, ha⟩, hrest⟩ := h
      obtain ⟨rest, hrest⟩ := ih hrest
      refine ⟨b :: rest, mapM_eq_ok.2 ?_⟩
      rw [List.map_cons, List.map_cons, ha, mapM_eq_ok.1 hrest]

/-- Steps that use what each item comes to may wait until all items have come to something. -/
theorem foldlM_map (f : α → Except ε β) {γ : Type} (step : γ → β → γ) (start : γ) (items : List α) :
    items.foldlM (fun c a => (f a).map (step c)) start = (items.mapM f).map (·.foldl step start) := by
  induction items generalizing start with
  | nil => rfl
  | cons a items ih =>
    rw [List.foldlM_cons, List.mapM_cons]
    cases f a with
    | error e => rfl
    | ok b =>
      refine (ih (step start b)).trans ?_
      cases items.mapM f <;> rfl

/-- What is found first among the results is found at the first item whose result has it. -/
theorem findSome?_eq_some_of_mapM {f : α → Except ε β} {γ : Type} {find : β → Option γ} {items : List α}
    {results : List β} (h : items.mapM f = .ok results) {c : γ} :
    results.findSome? find = some c ↔
      ∃ front a behind, items = front ++ a :: behind ∧ (∃ b, f a = .ok b ∧ find b = some c) ∧
        ∀ a' ∈ front, ∀ b, f a' = .ok b → find b = none := by
  have hfound (x : Except ε β) (c : γ) :
      x.toOption.bind find = some c ↔ ∃ b, x = .ok b ∧ find b = some c := by
    cases x <;> simp [Except.toOption]
  have hnone (x : Except ε β) : x.toOption.bind find = none ↔ ∀ b, x = .ok b → find b = none := by
    cases x <;> simp [Except.toOption]
  have hresults : results.findSome? find = items.findSome? fun a => (f a).toOption.bind find := by
    have hmap := congrArg (List.findSome? fun x => x.toOption.bind find) (mapM_eq_ok.1 h)
    rw [List.findSome?_map, List.findSome?_map] at hmap
    exact hmap.symm
  simp only [hresults, List.findSome?_eq_some_iff, hfound, hnone]

end SchemaGate.Outcome
