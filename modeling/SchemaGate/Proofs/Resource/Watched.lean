import SchemaGate.Proofs.Resource.Resolver

/-! A record of the attempts to load.

    To say how often a table is loaded, a loader runs with a record of its attempts beside what it keeps
    (`Watched`). The record is written and never read: without it the run is the same (`Mirrors`). It
    tells what was in a table when it was loaded, so no later change of the table changes the record. A
    resolver that has a table makes no attempt, and one that has none makes exactly one
    (`watched_mappings_of_none`). -/

namespace SchemaGate

open Run (runIn Within)

/-- An attempt to load a table: where, and how it ended, with what was then in the table. -/
structure Attempt where
  location : Text
  outcome : Except Failure Mappings

/-- What a loader keeps, and the attempts to load so far. -/
structure Watched (σ : Type) where
  kept : σ
  attempts : List Attempt

namespace World

variable {σ : Type}

/-- The world without the record. -/
def unwatched (w : World (Watched σ)) : World σ := ⟨w.files, w.tables, w.store.kept, w.events⟩

/-- The world with a record. -/
def watched (w : World σ) (attempts : List Attempt) : World (Watched σ) :=
  ⟨w.files, w.tables, ⟨w.store, attempts⟩, w.events⟩

end World

/-- No attempt is made. -/
def Frame.sameAttempts {σ : Type} : Frame (Watched σ) where
  rel u v := v.store.attempts = u.store.attempts
  refl _ := rfl
  trans h h' := h'.trans h
  logged _ _ := rfl
  added _ _ := rfl

/-- The loader with a record of its attempts. -/
def ResourceLoader.watched {σ : Type} (loader : ResourceLoader σ) : ResourceLoader (Watched σ) where
  loadAll location := fun w =>
    let (outcome, w') := runIn (loader.loadAll location) w.unwatched
    (outcome, w'.watched (w.store.attempts ++ [⟨location, outcome.map w'.tables.content⟩]))
  openResource path := fun w =>
    let (outcome, w') := runIn (loader.openResource path) w.unwatched
    (outcome, w'.watched w.store.attempts)
  description := loader.description

theorem ResourceLoader.runIn_loadAll_watched {σ : Type} (loader : ResourceLoader σ)
    (location : Text) (w : World (Watched σ)) :
    runIn (loader.watched.loadAll location) w =
      let (outcome, w') := runIn (loader.loadAll location) w.unwatched
      (outcome, w'.watched (w.store.attempts ++ [⟨location, outcome.map w'.tables.content⟩])) := rfl

/-- The resolver with a record of its loader's attempts. -/
def SchemaResolver.watched {σ : Type} (r : SchemaResolver σ) : SchemaResolver (Watched σ) :=
  ⟨r.loader.watched, r.location⟩

namespace Run

variable {σ α β : Type}

/-- A run with the record is, without the record, the other run. -/
def Mirrors (action' : Run (Watched σ) α) (action : Run σ α) : Prop :=
  ∀ w, ((runIn action' w).1, (runIn action' w).2.unwatched) = runIn action w.unwatched

namespace Mirrors

theorem pure (a : α) : Mirrors (Pure.pure a : Run (Watched σ) α) (Pure.pure a) := fun _ => rfl

theorem throw (f : Failure) :
    Mirrors (MonadExcept.throw f : Run (Watched σ) α) (MonadExcept.throw f) := fun _ => rfl

theorem log (level : Level) (topic : Topic) (text : Text) :
    Mirrors (Run.log level topic text : Run (Watched σ) Unit) (Run.log level topic text) :=
  fun _ => rfl

theorem tableAt (place : Nat) :
    Mirrors (Run.tableAt place : Run (Watched σ) Mappings) (Run.tableAt place) := fun _ => rfl

theorem newTable (table : Mappings) :
    Mirrors (Run.newTable table : Run (Watched σ) Nat) (Run.newTable table) := fun _ => rfl

theorem keepTable (place : Nat) :
    Mirrors (Run.keepTable place : Run (Watched σ) Unit) (Run.keepTable place) := fun _ => rfl

theorem bind {action' : Run (Watched σ) α} {action : Run σ α} {next' : α → Run (Watched σ) β}
    {next : α → Run σ β} (h : Mirrors action' action) (hnext : ∀ a, Mirrors (next' a) (next a)) :
    Mirrors (action' >>= next') (action >>= next) := by
  intro w
  rw [runIn_bind, runIn_bind, ← h w]
  rcases runIn action' w with ⟨f | a, w'⟩
  · rfl
  · exact hnext a w'

theorem tryCatch {action' : Run (Watched σ) α} {action : Run σ α}
    {handle' : Failure → Run (Watched σ) α} {handle : Failure → Run σ α}
    (h : Mirrors action' action) (hhandle : ∀ f, Mirrors (handle' f) (handle f)) :
    Mirrors (tryCatch action' handle') (tryCatch action handle) := by
  intro w
  rw [runIn_tryCatch, runIn_tryCatch, ← h w]
  rcases runIn action' w with ⟨f | a, w'⟩
  · exact hhandle f w'
  · rfl

end Mirrors

end Run

namespace SchemaResolver

open Run (Mirrors)

variable {σ : Type} (r : SchemaResolver σ)

theorem watched_serve (publicId : Option Text) (id : Text) (table : Mappings) :
    Mirrors (r.watched.serve publicId id table) (r.serve publicId id table) := by
  rw [serve, serve]
  cases locationIn table id with
  | none => exact .pure _
  | some location =>
    refine .bind ?_ fun outcome => ?_
    · exact .tryCatch (.bind (fun _ => rfl) fun _ => .pure _) fun _ => .pure _
    · cases outcome with
      | ok bytes => exact .bind (.log _ _ _) fun _ => .pure _
      | error f =>
        dsimp only
        split
        · exact .bind (.log _ _ _) fun _ => .pure _
        · exact .throw _

theorem watched_loadTable : Mirrors r.watched.loadTable r.loadTable :=
  .bind (.log _ _ _) fun _ => .bind (.tryCatch (fun _ => rfl) fun _ => .throw _) fun place =>
    .bind (.tableAt place) fun _ => .bind (.log _ _ _) fun _ => .bind (.tableAt place) .newTable

theorem watched_ownTable : Mirrors r.watched.ownTable r.ownTable := by
  intro w
  have hkept : w.unwatched.tables.kept = w.tables.kept := rfl
  rw [ownTable, ownTable, Run.runIn_bind, Run.runIn_bind, Run.runIn_get, Run.runIn_get]
  dsimp only
  rw [hkept]
  cases w.tables.kept with
  | some place => rfl
  | none =>
    have hload := r.watched_loadTable.bind fun place =>
      (Mirrors.keepTable place).bind fun _ => .pure place
    exact hload w

theorem watched_mappings : Mirrors r.watched.mappings r.mappings :=
  .bind r.watched_ownTable .tableAt

theorem watched_shownTable : Mirrors r.watched.shownTable r.shownTable :=
  .bind r.watched_ownTable fun place => .bind (.tableAt place) .newTable

theorem watched_resolve (publicId systemId : Option Text) :
    Mirrors (r.watched.resolve publicId systemId) (r.resolve publicId systemId) := by
  refine .bind (.log _ _ _) fun _ => ?_
  cases systemId with
  | none => exact .pure _
  | some id => exact .bind r.watched_mappings (r.watched_serve publicId id)

/-- A resolver that has no table loads once, and if that went well it has a copy of what was loaded. -/
theorem watched_mappings_of_none {r : SchemaResolver σ} {w : World (Watched σ)}
    (hkept : ∀ w : World σ, (runIn (r.loader.loadAll r.location) w).2.tables.kept = w.tables.kept)
    (h : w.loaded = none) :
    ∃ outcome w', runIn r.watched.mappings w = (outcome.mapError (loadFailure r.location), w') ∧
      w'.loaded = outcome.toOption ∧
      w'.store.attempts = w.store.attempts ++ [⟨r.location, outcome⟩] := by
  have hsame := hkept (w.told (attempt r.location)).unwatched
  rw [runIn_mappings, h]
  dsimp only [watched]
  rw [ResourceLoader.runIn_loadAll_watched]
  rcases hload : runIn (r.loader.loadAll r.location) (w.told (attempt r.location)).unwatched with
    ⟨f | place, w'⟩
  · rw [hload] at hsame
    exact ⟨.error f, w'.watched _, rfl,
      w'.tables.loaded_eq_none_iff.2 (hsame.trans (w.tables.loaded_eq_none_iff.1 h)), rfl⟩
  · exact ⟨.ok (w'.tables.content place), _, rfl, World.loaded_having _ _, rfl⟩

end SchemaResolver

end SchemaGate
