import SchemaGate.Proofs.Resource.Resolver

/-! Who can change which table.

    A loader refers to tables by what it keeps: it can change those, and the ones that it makes
    (`Frame.reaching`). The others of a program know the tables that they made or were handed. A table
    that a resolver keeps is secluded if none of them knows its place (`Secluded`). Runs of the loader,
    copies that are handed out and changes made outside leave it secluded, and as it is. A resolver that
    kept the table of its loader, or handed out its own, would not have one that is. -/

namespace SchemaGate

open Run (runIn)

variable {σ : Type} {held : σ → List Nat} {known : List Nat} {w w' : World σ}

/-- A run reaches the tables that its store refers to and those that it makes, and does not know what the
resolver keeps. -/
structure Reaches (held : σ → List Nat) (w w' : World σ) : Prop where
  kept : w'.tables.kept = w.tables.kept
  next : w.tables.next ≤ w'.tables.next
  content : ∀ place < w.tables.next, place ∉ held w.store →
    w'.tables.content place = w.tables.content place
  held : ∀ place ∈ held w'.store,
    place ∈ held w.store ∨ w.tables.next ≤ place ∧ place < w'.tables.next

/-- To reach no other tables. -/
def Frame.reaching (held : σ → List Nat) : Frame σ where
  rel := Reaches held
  refl _ := ⟨rfl, Nat.le_refl _, fun _ _ _ => rfl, fun _ => .inl⟩
  trans := by
    intro u v w h h'
    refine ⟨h'.kept.trans h.kept, Nat.le_trans h.next h'.next, fun place hlt hnot => ?_, fun place hw => ?_⟩
    · have hnot' : place ∉ held v.store := fun hv =>
        (h.held place hv).elim hnot fun hnew => Nat.not_lt.2 hnew.1 hlt
      exact (h'.content place (Nat.lt_of_lt_of_le hlt h.next) hnot').trans (h.content place hlt hnot)
    · rcases h'.held place hw with hv | ⟨hle, hlt⟩
      · exact (h.held place hv).imp_right fun hnew => ⟨hnew.1, Nat.lt_of_lt_of_le hnew.2 h'.next⟩
      · exact .inr ⟨Nat.le_trans h.next hle, hlt⟩
  logged _ _ := ⟨rfl, Nat.le_refl _, fun _ _ _ => rfl, fun _ => .inl⟩
  added w table := by
    refine ⟨rfl, ?_, fun place hlt _ => w.tables.content_add_of_lt hlt table, fun _ => .inl⟩
    simp [World.adding]

/-- Nobody but the resolver knows the table that it keeps, and nobody knows a table that was not made. -/
structure Secluded (held : σ → List Nat) (known : List Nat) (w : World σ) : Prop where
  apart : ∀ place ∈ w.tables.kept, place ∉ known ++ held w.store
  made : ∀ place ∈ known ++ held w.store, place < w.tables.next

namespace Secluded

theorem told (h : Secluded held known w) (e : Event) : Secluded held known (w.told e) := ⟨h.apart, h.made⟩

/-- A run that reaches only what it may leaves the table as it is, and secluded. -/
theorem loaded_of_reaches (h : Secluded held known w) (hr : Reaches held w w') :
    w'.loaded = w.loaded :=
  w.tables.loaded_congr hr.kept fun place hkept => hr.content place (w.tables.kept_lt place hkept)
    fun hheld => h.apart place hkept (List.mem_append_right _ hheld)

theorem of_reaches (h : Secluded held known w) (hr : Reaches held w w') : Secluded held known w' := by
  refine ⟨fun place hkept hplace => ?_, fun place hplace => ?_⟩
  · rw [hr.kept] at hkept
    rcases List.mem_append.1 hplace with hknown | hheld
    · exact h.apart place hkept (List.mem_append_left _ hknown)
    · rcases hr.held place hheld with hbefore | ⟨hle, -⟩
      · exact h.apart place hkept (List.mem_append_right _ hbefore)
      · exact Nat.not_lt.2 hle (w.tables.kept_lt place hkept)
  · rcases List.mem_append.1 hplace with hknown | hheld
    · exact Nat.lt_of_lt_of_le (h.made place (List.mem_append_left _ hknown)) hr.next
    · rcases hr.held place hheld with hbefore | ⟨-, hlt⟩
      · exact Nat.lt_of_lt_of_le (h.made place (List.mem_append_right _ hbefore)) hr.next
      · exact hlt

/-- A table that is made for the resolver has a place that nobody else knows. -/
theorem having (h : Secluded held known w) (table : Mappings) : Secluded held known (w.having table) := by
  refine ⟨fun place hkept hplace => ?_, fun place hplace => ?_⟩
  · obtain rfl : w.tables.next = place :=
      Option.some.inj ((w.tables.keepNew_spec table).2.symm.trans hkept)
    exact Nat.lt_irrefl _ (h.made _ hplace)
  · exact Nat.lt_of_lt_of_le (h.made place hplace) (by simp [World.having])

/-- A table may be made and given to others. -/
theorem adding (h : Secluded held known w) (table : Mappings) :
    Secluded held (known ++ [w.tables.next]) (w.adding table) := by
  have hcases : ∀ place ∈ (known ++ [w.tables.next]) ++ held w.store,
      place ∈ known ++ held w.store ∨ place = w.tables.next := by
    simp only [List.mem_append, List.mem_singleton]
    rintro place ((hplace | hplace) | hplace)
    · exact .inl (.inl hplace)
    · exact .inr hplace
    · exact .inl (.inr hplace)
  refine ⟨fun place hkept hplace => ?_, fun place hplace => ?_⟩
  · rcases hcases place hplace with hbefore | rfl
    · exact h.apart place hkept hbefore
    · exact Nat.lt_irrefl _ (w.tables.kept_lt _ hkept)
  · have hnext : (w.adding table).tables.next = w.tables.next + 1 := w.tables.next_add table
    rcases hcases place hplace with hbefore | rfl
    · exact hnext ▸ Nat.lt_succ_of_lt (h.made place hbefore)
    · exact hnext ▸ Nat.lt_succ_self _

/-- A table that others know may be changed. -/
theorem changing (h : Secluded held known w) {place : Nat} (hplace : place ∈ known ++ held w.store)
    (change : Mappings → Mappings) :
    Secluded held known { w with tables := w.tables.change place change } ∧
      (w.tables.change place change).loaded = w.loaded :=
  ⟨⟨h.apart, fun other hother => by simpa using h.made other hother⟩,
    w.tables.loaded_change (fun hkept => h.apart place hkept hplace) change⟩

/-- What the loader keeps may be changed, and then refer to tables that are known. -/
theorem storing (h : Secluded held known w) {store : σ}
    (hstore : ∀ place ∈ held store, place ∈ known ++ held w.store) :
    Secluded held known { w with store := store } := by
  have hbefore : ∀ place ∈ known ++ held store, place ∈ known ++ held w.store := fun place hplace =>
    (List.mem_append.1 hplace).elim (List.mem_append_left _) (hstore place)
  exact ⟨fun place hkept hplace => h.apart place hkept (hbefore place hplace),
    fun place hplace => h.made place (hbefore place hplace)⟩

end Secluded

/-- To leave the table of a resolver secluded is a discipline. -/
def Run.secluding (held : σ → List Nat) (known : List Nat) : RunDiscipline σ where
  Holds action := ∀ w, Secluded held known w → Secluded held known (runIn action w).2
  pure _ _ h := h
  bind {_ _ action _} haction hnext w h := by
    have hw := haction w h
    rw [Run.runIn_bind]
    rcases hr : runIn action w with ⟨f | a, w'⟩ <;> rw [hr] at hw
    · exact hw
    · exact hnext a w' hw
  throw _ _ h := h
  tryCatch {_ action _} haction hhandle w h := by
    have hw := haction w h
    rw [Run.runIn_tryCatch]
    rcases hr : runIn action w with ⟨f | a, w'⟩ <;> rw [hr] at hw
    · exact hhandle f w' hw
    · exact hw
  log _ _ _ _ h := h.told _
  askFiles _ _ h := by
    rw [Run.runIn_askFiles]
    exact h

namespace SchemaResolver

variable {r : SchemaResolver σ} (hr : r.loader.Within (.reaching held))

include hr

theorem mappings_secluding : (Run.secluding held known).Holds r.mappings := by
  intro w h
  rw [runIn_mappings]
  cases w.loaded with
  | some table => exact h
  | none =>
    have hload := (h.told (attempt r.location)).of_reaches (hr.loadAll r.location _)
    rcases hrun : runIn (r.loader.loadAll r.location) (w.told (attempt r.location)) with
      ⟨f | place, w'⟩ <;> rw [hrun] at hload
    · exact hload
    · exact (hload.told _).having _

theorem resolve_secluding (publicId systemId : Option Text) :
    (Run.secluding held known).Holds (r.resolve publicId systemId) :=
  resolve_holds _ (mappings_secluding hr)
    (fun path w h => h.of_reaches (hr.openResource path w)) publicId systemId

end SchemaResolver

end SchemaGate
