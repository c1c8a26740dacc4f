import SchemaGate.Proofs.Table.Memory
import SchemaGate.Run

/-! How runs end, and what they leave as it was.

    What each step of a run does to a world is said once, so that no later proof opens the monad. A
    frame relates the worlds before and after; what keeps to it step by step keeps to it as a whole
    (`Within`). -/

namespace SchemaGate

namespace World

variable {σ : Type}

/-- The world in which one more event was told. -/
def told (w : World σ) (e : Event) : World σ := { w with events := w.events ++ [e] }

/-- The world in which one more table was made. -/
def adding (w : World σ) (table : Mappings) : World σ := { w with tables := w.tables.add table }

/-- The world in which the resolver keeps a table that was made for it. -/
def having (w : World σ) (table : Mappings) : World σ := { w with tables := w.tables.keepNew table }

@[simp] theorem files_told (w : World σ) (e : Event) : (w.told e).files = w.files := rfl
@[simp] theorem tables_told (w : World σ) (e : Event) : (w.told e).tables = w.tables := rfl
@[simp] theorem loaded_told (w : World σ) (e : Event) : (w.told e).loaded = w.loaded := rfl
@[simp] theorem store_told (w : World σ) (e : Event) : (w.told e).store = w.store := rfl
@[simp] theorem events_told (w : World σ) (e : Event) : (w.told e).events = w.events ++ [e] := rfl

@[simp] theorem files_adding (w : World σ) (table : Mappings) : (w.adding table).files = w.files := rfl
@[simp] theorem loaded_adding (w : World σ) (table : Mappings) : (w.adding table).loaded = w.loaded :=
  w.tables.loaded_add table

@[simp] theorem files_having (w : World σ) (table : Mappings) : (w.having table).files = w.files := rfl
@[simp] theorem loaded_having (w : World σ) (table : Mappings) : (w.having table).loaded = some table :=
  w.tables.loaded_keepNew table

end World

/-- A relation between a world and later ones to which log records and new tables keep. -/
structure Frame (σ : Type) where
  rel : World σ → World σ → Prop
  refl : ∀ w, rel w w
  trans : ∀ {u v w}, rel u v → rel v w → rel u w
  logged : ∀ w record, rel w (w.told (.logged record))
  added : ∀ w table, rel w (w.adding table)

namespace Frame

variable {σ : Type}

/-- The table that the resolver keeps stays what it is. -/
def sameTable : Frame σ where
  rel u v := v.loaded = u.loaded
  refl _ := rfl
  trans h h' := h'.trans h
  logged _ _ := rfl
  added w table := w.loaded_adding table

/-- What was told stays told, and only records are added to it. -/
def onlyRecords : Frame σ where
  rel u v := ∃ records : List Record, v.events = u.events ++ records.map .logged
  refl _ := ⟨[], (List.append_nil _).symm⟩
  trans := by
    rintro u v w ⟨first, hv⟩ ⟨more, hw⟩
    exact ⟨first ++ more, by rw [hw, hv, List.map_append, List.append_assoc]⟩
  logged _ record := ⟨[record], rfl⟩
  added _ _ := ⟨[], (List.append_nil _).symm⟩

end Frame

namespace Run

variable {σ α β : Type}

/-! ### Ends of runs -/

@[simp] theorem runIn_pure (a : α) (w : World σ) : runIn (pure a) w = (.ok a, w) := rfl

@[simp] theorem runIn_throw (f : Failure) (w : World σ) :
    runIn (throw f : Run σ α) w = (.error f, w) := rfl

theorem runIn_bind (action : Run σ α) (next : α → Run σ β) (w : World σ) :
    runIn (action >>= next) w =
      match runIn action w with
      | (.ok a, w') => runIn (next a) w'
      | (.error f, w') => (.error f, w') := by
  simp only [runIn, ExceptT.run_bind, StateT.run_bind]
  rcases StateT.run (ExceptT.run action) w with ⟨_ | _, w'⟩ <;> rfl

/-- One action after another ends well if both do. -/
theorem runIn_bind_eq_ok {action : Run σ α} {next : α → Run σ β} {w w' : World σ} {b : β} :
    runIn (action >>= next) w = (.ok b, w') ↔
      ∃ a w₁, runIn action w = (.ok a, w₁) ∧ runIn (next a) w₁ = (.ok b, w') := by
  rw [runIn_bind]
  rcases runIn action w with ⟨f | a, w₁⟩
  · simp
  · constructor
    · intro h
      exact ⟨a, w₁, rfl, h⟩
    · rintro ⟨_, _, heq, h⟩
      cases heq
      exact h

/-- One action after another fails if the first one does, or the one behind it. -/
theorem runIn_bind_eq_error {action : Run σ α} {next : α → Run σ β} {w : World σ} {f : Failure} :
    (runIn (action >>= next) w).1 = .error f ↔
      (runIn action w).1 = .error f ∨
        ∃ a w₁, runIn action w = (.ok a, w₁) ∧ (runIn (next a) w₁).1 = .error f := by
  rw [runIn_bind]
  rcases runIn action w with ⟨g | a, w₁⟩
  · simp
  · constructor
    · intro h
      exact .inr ⟨a, w₁, rfl, h⟩
    · rintro (h | ⟨_, _, heq, h⟩)
      · cases h
      · cases heq
        exact h

theorem runIn_tryCatch (action : Run σ α) (handle : Failure → Run σ α) (w : World σ) :
    runIn (tryCatch action handle) w =
      match runIn action w with
      | (.ok a, w') => (.ok a, w')
      | (.error f, w') => runIn (handle f) w' := by
  simp only [runIn, tryCatch, tryCatchThe, MonadExceptOf.tryCatch, ExceptT.tryCatch, ExceptT.run_mk,
    StateT.run_bind]
  change _ = match StateT.run action w with | (.ok a, w') => _ | (.error f, w') => _
  rcases StateT.run action w with ⟨_ | _, w'⟩ <;> rfl

@[simp] theorem runIn_get (w : World σ) : runIn get w = (.ok w, w) := rfl

@[simp] theorem runIn_modify (change : World σ → World σ) (w : World σ) :
    runIn (modify change) w = (.ok (), change w) := rfl

@[simp] theorem runIn_tell (e : Event) (w : World σ) : runIn (tell e) w = (.ok (), w.told e) := rfl

@[simp] theorem runIn_log (level : Level) (topic : Topic) (text : Text) (w : World σ) :
    runIn (log level topic text) w = (.ok (), w.told (.logged ⟨level, topic, text⟩)) := rfl

@[simp] theorem runIn_ofExcept (result : Except Failure α) (w : World σ) :
    runIn (ofExcept result) w = (result, w) := by
  cases result <;> rfl

@[simp] theorem runIn_askFiles (question : FileSystem → Except Failure α) (w : World σ) :
    runIn (askFiles question) w = (question w.files, w) := by
  rw [askFiles, runIn_bind]
  exact runIn_ofExcept _ _

@[simp] theorem runIn_changeFiles (change : FileSystem → Except Failure FileSystem) (w : World σ) :
    runIn (changeFiles change) w =
      match change w.files with
      | .ok files => (.ok (), { w with files := files })
      | .error f => (.error f, w) := by
  rw [changeFiles, runIn_bind, runIn_askFiles]
  cases change w.files <;> rfl

@[simp] theorem runIn_attemptFiles (change : FileSystem → Except Failure Unit × FileSystem) (w : World σ) :
    runIn (attemptFiles change) w = ((change w.files).1, { w with files := (change w.files).2 }) := by
  rw [attemptFiles, runIn_bind, runIn_get]
  dsimp only
  rw [runIn_bind, runIn_modify]
  exact runIn_ofExcept _ _

@[simp] theorem runIn_tableAt (place : Nat) (w : World σ) :
    runIn (tableAt place) w = (.ok (w.tables.content place), w) := rfl

@[simp] theorem runIn_newTable (table : Mappings) (w : World σ) :
    runIn (newTable table) w = (.ok w.tables.next, w.adding table) := rfl

@[simp] theorem runIn_copyTable (place : Nat) (w : World σ) :
    runIn (copyTable place) w = (.ok w.tables.next, w.adding (w.tables.content place)) := rfl

@[simp] theorem runIn_keepTable (place : Nat) (w : World σ) :
    runIn (keepTable place) w = (.ok (), { w with tables := w.tables.keep place }) := rfl

theorem outcome_askFiles_bind (question : FileSystem → Except Failure α) (next : α → Run σ β)
    (w : World σ) :
    (runIn (askFiles question >>= next) w).1 = question w.files >>= fun a => (runIn (next a) w).1 := by
  rw [runIn_bind, runIn_askFiles]
  cases question w.files <;> rfl

/-- A run leaves every world within a frame. -/
def Within (F : Frame σ) (action : Run σ α) : Prop := ∀ w, F.rel w (runIn action w).2

namespace Within

variable {F : Frame σ}

theorem pure (a : α) : Within F (Pure.pure a) := F.refl

theorem throw (f : Failure) : Within F (MonadExcept.throw f : Run σ α) := F.refl

theorem bind {action : Run σ α} {next : α → Run σ β} (h : Within F action)
    (hnext : ∀ a, Within F (next a)) : Within F (action >>= next) := by
  intro w
  have hw := h w
  rw [runIn_bind]
  rcases hr : runIn action w with ⟨f | a, w'⟩ <;> rw [hr] at hw
  · exact hw
  · exact F.trans hw (hnext a w')

theorem tryCatch {action : Run σ α} {handle : Failure → Run σ α} (h : Within F action)
    (hhandle : ∀ f, Within F (handle f)) : Within F (tryCatch action handle) := by
  intro w
  have hw := h w
  rw [runIn_tryCatch]
  rcases hr : runIn action w with ⟨f | a, w'⟩ <;> rw [hr] at hw
  · exact F.trans hw (hhandle f w')
  · exact hw

theorem log (level : Level) (topic : Topic) (text : Text) : Within F (Run.log level topic text) :=
  fun w => F.logged w _

theorem askFiles (question : FileSystem → Except Failure α) : Within F (Run.askFiles question) := by
  intro w
  rw [runIn_askFiles]
  exact F.refl w

theorem tableAt (place : Nat) : Within F (Run.tableAt place) := F.refl

theorem newTable (table : Mappings) : Within F (Run.newTable table) := fun w => F.added w table

end Within

end Run

end SchemaGate
