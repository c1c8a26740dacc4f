import SchemaGate.Proofs.Resource.Reach
import SchemaGate.Proofs.Resource.Watched

/-! A resolver in use.

    In a session a resolver is asked and shown in any order, while tables, what its loader keeps and the
    files are changed from outside. A table is handed out by its place, and whoever knows the place can
    change what is there: the loader its own table, even if that is the one it loaded, and everybody what
    they were handed. The table that the resolver keeps stays secluded all the same (`secluded_after`).
    Every step keeps the record of the loader's attempts a ledger (`Ledger`): failures, then at most one
    success, which is the table (`ledger_step`); and so does every session (`ledger_after`). What steps
    answer is read off the table (`loads_at_most_once`). -/

namespace SchemaGate

open Run (runIn Within)

/-- What may happen while a resolver is in use. -/
inductive Operation (σ : Type) where
  | resolve (publicId systemId : Option Text)
  | showTable
  | showText
  | showDescription
  /-- A table is made outside. -/
  | makeTable (table : Mappings)
  /-- A table is changed by who knows it: one that was handed out or made outside, or the loader's own. -/
  | changeTable (place : Nat) (change : Mappings → Mappings)
  /-- What the loader keeps is changed, and with it perhaps what its own table is. -/
  | changeStore (change : σ → σ)
  | changeFiles (change : FileSystem → FileSystem)

/-- What an operation answers. -/
inductive Answer where
  | entity (outcome : Except Failure (Option InputSource))
  | table (outcome : Except Failure Mappings)
  | text (text : Text)
  | done

/-- The world of a resolver in use, and the places of tables that were handed out or made outside. -/
structure Session (σ : Type) where
  world : World σ
  known : List Nat

namespace Operation

variable {σ : Type}

/-- Does the operation need the table? -/
def needsTable : Operation σ → Bool
  | resolve _ (some _) | showTable => true
  | _ => false

/-- The answer if the table cannot be loaded. -/
def failed (f : Failure) : Operation σ → Answer
  | resolve .. => .entity (.error f)
  | _ => .table (.error f)

/-- The answer as long as there is no table, if none is needed. -/
def answerWithout (r : SchemaResolver σ) : Operation σ → Answer
  | resolve .. => .entity (.ok none)
  | showText => .text (r.text none)
  | showDescription => .text (r.description none)
  | _ => .done

/-- The answer from a table, in a world in which resources are opened. -/
def answerFrom (r : SchemaResolver σ) (table : Mappings) (w : World σ) : Operation σ → Answer
  | resolve _ none => .entity (.ok none)
  | resolve publicId (some id) =>
    match SchemaResolver.locationIn table id with
    | none => .entity (.ok none)
    | some location =>
      .entity (SchemaResolver.opened publicId id (runIn (r.loader.openResource location) w).1)
  | showTable => .table (.ok table)
  | showText => .text (r.text (some table))
  | showDescription => .text (r.description (some table))
  | _ => .done

/-- The operation where the loader is watched: the record cannot be changed. -/
def watched : Operation σ → Operation (Watched σ)
  | resolve publicId systemId => .resolve publicId systemId
  | showTable => .showTable
  | showText => .showText
  | showDescription => .showDescription
  | makeTable table => .makeTable table
  | changeTable place change => .changeTable place change
  | changeStore change => .changeStore fun s => { s with kept := change s.kept }
  | changeFiles change => .changeFiles change

end Operation

namespace Session

variable {σ : Type}

/-- A session in which nothing has happened, with the tables of the program so far. -/
def start (files : FileSystem) (tables : List Mappings) (store : σ) : Session σ :=
  ⟨⟨files, ⟨tables, none, nofun⟩, store, []⟩, List.range tables.length⟩

variable (held : σ → List Nat)

/-- The tables that can be changed: those that are known, and those that the loader refers to. -/
def reachable (s : Session σ) : List Nat := s.known ++ held s.world.store

/-- What an operation answers, and the session after it. Nobody can change a table they do not know, or
make the loader refer to one. -/
def step (r : SchemaResolver σ) (s : Session σ) : Operation σ → Answer × Session σ
  | .resolve publicId systemId =>
    let (outcome, w) := runIn (r.resolve publicId systemId) s.world
    (.entity outcome, { s with world := w })
  | .showTable =>
    let (outcome, w) := runIn r.shownTable s.world
    (.table (outcome.map w.tables.content), ⟨w, s.known ++ outcome.toOption.toList⟩)
  | .showText => (.text (r.text s.world.loaded), s)
  | .showDescription => (.text (r.description s.world.loaded), s)
  | .makeTable table => (.done, ⟨s.world.adding table, s.known ++ [s.world.tables.next]⟩)
  | .changeTable place change =>
    (.done,
      if place ∈ s.reachable held then
        { s with world := { s.world with tables := s.world.tables.change place change } }
      else s)
  | .changeStore change =>
    (.done,
      if ∀ place ∈ held (change s.world.store), place ∈ s.reachable held then
        { s with world := { s.world with store := change s.world.store } }
      else s)
  | .changeFiles change => (.done, { s with world := { s.world with files := change s.world.files } })

/-- The session after operations, one after another. -/
def after (r : SchemaResolver σ) (s : Session σ) (operations : List (Operation σ)) : Session σ :=
  operations.foldl (fun s operation => (s.step held r operation).2) s

/-- A step where the loader is watched. -/
def stepWatched (r : SchemaResolver σ) (s : Session (Watched σ)) (operation : Operation σ) :
    Answer × Session (Watched σ) :=
  s.step (fun watched => held watched.kept) r.watched operation.watched

/-- The session after operations, where the loader is watched. -/
def afterWatched (r : SchemaResolver σ) (s : Session (Watched σ)) (operations : List (Operation σ)) :
    Session (Watched σ) :=
  operations.foldl (fun s operation => (s.stepWatched held r operation).2) s

/-- The session without the record of attempts. -/
def unwatched (s : Session (Watched σ)) : Session σ := ⟨s.world.unwatched, s.known⟩

/-- The attempts to load so far. -/
def attempts (s : Session (Watched σ)) : List Attempt := s.world.store.attempts

end Session

/-- All attempts were to load from a location and have failed. -/
def Failures (location : Text) (attempts : List Attempt) : Prop :=
  ∀ a ∈ attempts, ∃ f, a = ⟨location, .error f⟩

/-- The attempts from a location that a resolver has made: while it has no table all have failed, and
its table is what the last one loaded, after failures only. -/
def Ledger (location : Text) (attempts : List Attempt) : Option Mappings → Prop
  | none => Failures location attempts
  | some table =>
    ∃ failures, Failures location failures ∧ attempts = failures ++ [⟨location, .ok table⟩]

namespace Session

variable {σ : Type} (held : σ → List Nat) (r : SchemaResolver σ)

/-! ### Without the record -/

theorem unwatched_step (s : Session (Watched σ)) (operation : Operation σ) :
    ((s.stepWatched held r operation).1, (s.stepWatched held r operation).2.unwatched) =
      s.unwatched.step held r operation := by
  cases operation with
  | resolve publicId systemId =>
    have h := r.watched_resolve publicId systemId s.world
    simp only [stepWatched, step, Operation.watched, unwatched, ← h]
  | showTable =>
    have h := r.watched_shownTable s.world
    simp only [stepWatched, step, Operation.watched, unwatched, ← h]
    rfl
  | changeTable | changeStore =>
    refine Prod.ext rfl ?_
    exact apply_ite unwatched _ _ _
  | _ => rfl

theorem unwatched_after (s : Session (Watched σ)) (operations : List (Operation σ)) :
    (s.afterWatched held r operations).unwatched = s.unwatched.after held r operations := by
  induction operations generalizing s with
  | nil => rfl
  | cons operation operations ih =>
    have hstep := congrArg Prod.snd (unwatched_step held r s operation)
    exact (ih _).trans (congrArg (fun s => s.after held r operations) hstep)

/-! ### Steps -/

/-- The failures of an attempt that a resolver reports under the location of the table: refusals of
the system, and bytes that do not decode. -/
def Unreadable (f : Failure) : Prop :=
  (∃ fault message, f = .system fault message) ∨ f = .undecodable

theorem loadFailure_cases (location : Text) (f : Failure) :
    (Unreadable f → SchemaResolver.loadFailure location f = .mapping location f) ∧
      (¬ Unreadable f → SchemaResolver.loadFailure location f = f) := by
  cases f with
  | system fault message => exact ⟨fun _ => rfl, fun h => absurd (.inl ⟨fault, message, rfl⟩) h⟩
  | undecodable => exact ⟨fun _ => rfl, fun h => absurd (.inr rfl) h⟩
  | _ => exact ⟨(by rintro (⟨_, _, h⟩ | h) <;> cases h), fun _ => rfl⟩

section Secluded

variable {held r}

/-- In every step the table stays secluded. -/
theorem secluded_step (hr : r.loader.Within (.reaching held)) {s : Session σ}
    (h : Secluded held s.known s.world) (operation : Operation σ) :
    Secluded held (s.step held r operation).2.known (s.step held r operation).2.world := by
  cases operation with
  | resolve publicId systemId =>
    exact SchemaResolver.resolve_secluding hr publicId systemId s.world h
  | showTable =>
    have hmappings := SchemaResolver.mappings_secluding hr s.world h
    simp only [step, SchemaResolver.runIn_shownTable]
    rcases hrun : runIn r.mappings s.world with ⟨f | table, w⟩ <;> rw [hrun] at hmappings
    · exact (List.append_nil s.known).symm ▸ hmappings
    · exact hmappings.adding table
  | makeTable table => exact h.adding table
  | changeTable place change =>
    simp only [step]
    split
    · exact (h.changing ‹_› change).1
    · exact h
  | changeStore change =>
    simp only [step]
    split
    · exact h.storing ‹_›
    · exact h
  | changeFiles change => exact ⟨h.apart, h.made⟩
  | showText | showDescription => exact h

end Secluded

section Watched

variable {held r} (hr : r.loader.Within (.reaching held)) {s : Session (Watched σ)}

/-- Nobody else knows the table of a watched resolver. -/
abbrev IsSecluded (held : σ → List Nat) (s : Session (Watched σ)) : Prop :=
  Secluded (fun watched => held watched.kept) s.known s.world

include hr

theorem watched_reaching : r.watched.loader.Within (.reaching fun watched => held watched.kept) := by
  refine ⟨fun location w => ?_, fun path w => ?_⟩
  · obtain ⟨hkept, hnext, hcontent, hheld⟩ := hr.loadAll location w.unwatched
    exact ⟨hkept, hnext, hcontent, hheld⟩
  · obtain ⟨hkept, hnext, hcontent, hheld⟩ := hr.openResource path w.unwatched
    exact ⟨hkept, hnext, hcontent, hheld⟩

theorem serve_watched {known : List Nat} (publicId : Option Text) (id : Text) (table : Mappings)
    {w : World (Watched σ)} (h : Secluded (fun watched => held watched.kept) known w) :
    (runIn (r.watched.serve publicId id table) w).2.loaded = w.loaded ∧
      (runIn (r.watched.serve publicId id table) w).2.store.attempts = w.store.attempts := by
  have hattempts : ∀ path, Within .sameAttempts (r.watched.loader.openResource path) :=
    fun _ _ => rfl
  refine ⟨h.loaded_of_reaches ?_, SchemaResolver.serve_holds (Run.within _) hattempts publicId id table w⟩
  exact SchemaResolver.serve_holds (Run.within _) (watched_reaching hr).openResource publicId id table w

omit hr in
/-- What is served comes from the table that is there. -/
theorem entity_serve (publicId : Option Text) (id : Text) (table : Mappings)
    (w : World (Watched σ)) :
    Answer.entity (runIn (r.watched.serve publicId id table) w).1 =
      (Operation.resolve publicId (some id)).answerFrom r table w.unwatched := by
  rw [SchemaResolver.runIn_serve, Operation.answerFrom]
  cases SchemaResolver.locationIn table id <;> rfl

/-- With a table nothing is loaded and every answer comes from the table. -/
theorem step_of_table (hs : IsSecluded held s) {table : Mappings} (h : s.world.loaded = some table)
    (operation : Operation σ) :
    (s.stepWatched held r operation).2.world.loaded = some table ∧
      (s.stepWatched held r operation).2.attempts = s.attempts ∧
      ∃ w : World σ, w.files = s.world.files ∧ w.store = s.world.store.kept ∧
        w.tables = s.world.tables ∧
        (s.stepWatched held r operation).1 = operation.answerFrom r table w := by
  cases operation with
  | resolve publicId systemId =>
    cases systemId with
    | none => exact ⟨h, rfl, s.world.unwatched, rfl, rfl, rfl, rfl⟩
    | some id =>
      let w := s.world.told (SchemaResolver.request publicId (some id))
      have hrun : runIn (r.watched.resolve publicId (some id)) s.world =
          runIn (r.watched.serve publicId id table) w := by
        rw [SchemaResolver.runIn_resolve_some, Run.runIn_bind,
          SchemaResolver.runIn_mappings_of_table (w := w) h]
      obtain ⟨hloaded, hattempts⟩ := serve_watched hr publicId id table (hs.told _ : Secluded _ _ w)
      simp only [stepWatched, step, Operation.watched, attempts, hrun]
      exact ⟨hloaded.trans h, hattempts, w.unwatched, rfl, rfl, rfl, entity_serve publicId id table w⟩
  | showTable =>
    simp only [stepWatched, step, Operation.watched, attempts, SchemaResolver.runIn_shownTable,
      SchemaResolver.runIn_mappings_of_table h]
    refine ⟨(World.loaded_adding _ _).trans h, rfl, s.world.unwatched, rfl, rfl, rfl, ?_⟩
    exact congrArg (fun table => Answer.table (.ok table)) (s.world.tables.content_add_next table)
  | showText =>
    exact ⟨h, rfl, s.world.unwatched, rfl, rfl, rfl, congrArg (fun t => Answer.text (r.text t)) h⟩
  | showDescription =>
    exact ⟨h, rfl, s.world.unwatched, rfl, rfl, rfl,
      congrArg (fun t => Answer.text (r.description t)) h⟩
  | makeTable made =>
    exact ⟨(World.loaded_adding _ _).trans h, rfl, s.world.unwatched, rfl, rfl, rfl, rfl⟩
  | changeTable place change =>
    simp only [stepWatched, step, Operation.watched]
    refine ⟨?_, ?_, s.world.unwatched, rfl, rfl, rfl, rfl⟩
    · split
      · exact (hs.changing ‹_› change).2.trans h
      · exact h
    · split <;> rfl
  | changeStore change =>
    simp only [stepWatched, step, Operation.watched]
    refine ⟨?_, ?_, s.world.unwatched, rfl, rfl, rfl, rfl⟩ <;> split <;> first | exact h | rfl
  | changeFiles => exact ⟨h, rfl, s.world.unwatched, rfl, rfl, rfl, rfl⟩

/-- Without a table an operation that needs one makes one attempt to load it, and any other none. -/
theorem step_of_none (hs : IsSecluded held s) (h : s.world.loaded = none) (operation : Operation σ) :
    let (answer, next) := s.stepWatched held r operation
    if operation.needsTable then
      ∃ outcome, next.attempts = s.attempts ++ [⟨r.location, outcome⟩] ∧
        next.world.loaded = outcome.toOption ∧
        (∀ table, outcome = .ok table → ∃ w, answer = operation.answerFrom r table w) ∧
        ∀ f, outcome = .error f →
          (Unreadable f → answer = operation.failed (.mapping r.location f)) ∧
          (¬ Unreadable f → answer = operation.failed f)
    else next.attempts = s.attempts ∧ next.world.loaded = none ∧
      answer = operation.answerWithout r := by
  have hkept : ∀ w : World σ, (runIn (r.loader.loadAll r.location) w).2.tables.kept = w.tables.kept :=
    fun w => (hr.loadAll r.location w).kept
  cases operation with
  | resolve publicId systemId =>
    cases systemId with
    | none => exact ⟨rfl, h, rfl⟩
    | some id =>
      let w := s.world.told (SchemaResolver.request publicId (some id))
      have hsecluded := SchemaResolver.mappings_secluding (watched_reaching hr) w (hs.told _)
      obtain ⟨outcome, w', hload, hloaded, hattempts⟩ :=
        SchemaResolver.watched_mappings_of_none (w := w) hkept h
      rw [hload] at hsecluded
      simp only [Operation.needsTable, stepWatched, step, Operation.watched, attempts,
        SchemaResolver.runIn_resolve_some, Run.runIn_bind, hload, w, if_true]
      refine ⟨outcome, ?_⟩
      cases outcome with
      | error f =>
        obtain ⟨hmapping, hsame⟩ := loadFailure_cases r.location f
        refine ⟨hattempts, hloaded, nofun, fun _ hf => ?_⟩
        cases hf
        exact ⟨fun hf => congrArg (fun f => Answer.entity (.error f)) (hmapping hf),
          fun hf => congrArg (fun f => Answer.entity (.error f)) (hsame hf)⟩
      | ok table =>
        obtain ⟨hloaded', hattempts'⟩ := serve_watched hr publicId id table hsecluded
        refine ⟨hattempts'.trans hattempts, hloaded'.trans hloaded, fun _ ht => ?_, nofun⟩
        cases ht
        exact ⟨w'.unwatched, entity_serve publicId id table w'⟩
  | showTable =>
    obtain ⟨outcome, w', hload, hloaded, hattempts⟩ :=
      SchemaResolver.watched_mappings_of_none (w := s.world) hkept h
    simp only [Operation.needsTable, stepWatched, step, Operation.watched, attempts,
      SchemaResolver.runIn_shownTable, hload, if_true]
    refine ⟨outcome, ?_⟩
    cases outcome with
    | error f =>
      obtain ⟨hmapping, hsame⟩ := loadFailure_cases r.location f
      refine ⟨hattempts, hloaded, nofun, fun _ hf => ?_⟩
      cases hf
      exact ⟨fun hf => congrArg (fun f => Answer.table (.error f)) (hmapping hf),
        fun hf => congrArg (fun f => Answer.table (.error f)) (hsame hf)⟩
    | ok table =>
      refine ⟨hattempts, (World.loaded_adding _ _).trans hloaded, fun _ ht => ⟨w'.unwatched, ?_⟩, nofun⟩
      cases ht
      exact congrArg (fun table => Answer.table (.ok table)) (w'.tables.content_add_next table)
  | showText => exact ⟨rfl, h, congrArg (fun t => Answer.text (r.text t)) h⟩
  | showDescription => exact ⟨rfl, h, congrArg (fun t => Answer.text (r.description t)) h⟩
  | makeTable table => exact ⟨rfl, (World.loaded_adding _ _).trans h, rfl⟩
  | changeTable place change =>
    simp only [Operation.needsTable, stepWatched, step, Operation.watched, Bool.false_eq_true, if_false]
    refine ⟨?_, ?_, rfl⟩
    · split <;> rfl
    · split
      · exact (hs.changing ‹_› change).2.trans h
      · exact h
  | changeStore change =>
    simp only [Operation.needsTable, stepWatched, step, Operation.watched, Bool.false_eq_true, if_false]
    refine ⟨?_, ?_, rfl⟩ <;> split <;> first | exact h | rfl
  | changeFiles => exact ⟨rfl, h, rfl⟩

/-! ### Sessions -/

theorem ledger_step (hs : IsSecluded held s) (h : Ledger r.location s.attempts s.world.loaded)
    (operation : Operation σ) :
    Ledger r.location (s.stepWatched held r operation).2.attempts
      (s.stepWatched held r operation).2.world.loaded := by
  cases htable : s.world.loaded with
  | some table =>
    obtain ⟨hsame, hattempts, -⟩ := step_of_table hr hs htable operation
    rwa [hsame, hattempts, ← htable]
  | none =>
    rw [htable] at h
    have hstep := step_of_none hr hs htable operation
    dsimp only at hstep
    split at hstep
    · obtain ⟨outcome, hattempts, hloaded, -⟩ := hstep
      rw [hattempts, hloaded]
      cases outcome with
      | ok table => exact ⟨_, h, rfl⟩
      | error f =>
        intro a ha
        rcases List.mem_append.1 ha with ha | ha
        · exact h a ha
        · exact ⟨f, List.mem_singleton.1 ha⟩
    · rwa [hstep.1, hstep.2.1]

theorem secluded_after (hs : IsSecluded held s) (operations : List (Operation σ)) :
    IsSecluded held (s.afterWatched held r operations) := by
  induction operations generalizing s with
  | nil => exact hs
  | cons operation operations ih =>
    exact ih (secluded_step (watched_reaching hr) hs operation.watched)

theorem ledger_after (hs : IsSecluded held s) (h : Ledger r.location s.attempts s.world.loaded)
    (operations : List (Operation σ)) :
    Ledger r.location (s.afterWatched held r operations).attempts
      (s.afterWatched held r operations).world.loaded := by
  induction operations generalizing s with
  | nil => exact h
  | cons operation operations ih =>
    exact ih (secluded_step (watched_reaching hr) hs operation.watched) (ledger_step hr hs h operation)

theorem after_of_table (hs : IsSecluded held s) {table : Mappings} (h : s.world.loaded = some table)
    (operations : List (Operation σ)) :
    (s.afterWatched held r operations).world.loaded = some table ∧
      (s.afterWatched held r operations).attempts = s.attempts := by
  induction operations generalizing s with
  | nil => exact ⟨h, rfl⟩
  | cons operation operations ih =>
    obtain ⟨hloaded, hattempts, -⟩ := step_of_table hr hs h operation
    have hsecluded := secluded_step (watched_reaching hr) hs operation.watched
    exact (ih hsecluded hloaded).imp_right fun hrest => hrest.trans hattempts

end Watched

/-- A resolver loads its table at most once successfully, whatever happens while it is in use. The
attempts of its loader are failures and then at most one success. As long as there is no table each
operation that needs one makes exactly one attempt, and the others make none; an attempt that fails is
reported, under the location if the table could not be read, and leaves no table. Once there is a
table no attempt is made, and everything is answered from what was then loaded, whoever changes which
table. Of the loader only this is asked: that it changes no tables but those it refers to or makes. -/
theorem loads_at_most_once (hr : r.loader.Within (.reaching held)) (files : FileSystem)
    (tables : List Mappings) (store : σ) (hstore : ∀ place ∈ held store, place < tables.length)
    (operations : List (Operation σ)) :
    let s := (start files tables ⟨store, []⟩).afterWatched held r operations
    (s.unwatched = (start files tables store).after held r operations ∧
      ∀ operation : Operation σ,
        (s.stepWatched held r operation).1 = (s.unwatched.step held r operation).1) ∧
    Ledger r.location s.attempts s.world.loaded ∧
    (s.world.loaded = none → ∀ operation : Operation σ,
      let (answer, next) := s.stepWatched held r operation
      if operation.needsTable then
        ∃ outcome, next.attempts = s.attempts ++ [⟨r.location, outcome⟩] ∧
          next.world.loaded = outcome.toOption ∧
          (∀ table, outcome = .ok table → ∃ w, answer = operation.answerFrom r table w) ∧
          ∀ f, outcome = .error f →
            (Unreadable f → answer = operation.failed (.mapping r.location f)) ∧
            (¬ Unreadable f → answer = operation.failed f)
      else next.attempts = s.attempts ∧ next.world.loaded = none ∧
        answer = operation.answerWithout r) ∧
    (∀ f, ∃ message, (Failure.mapping r.location f).message? = some message ∧
      r.location <:+: message) ∧
    ∀ table, s.world.loaded = some table → ∀ more : List (Operation σ),
      let later := s.afterWatched held r more
      later.world.loaded = some table ∧ later.attempts = s.attempts ∧
        ∀ operation : Operation σ, ∃ w : World σ, w.files = later.world.files ∧
          w.store = later.world.store.kept ∧ w.tables = later.world.tables ∧
          (later.stepWatched held r operation).1 = operation.answerFrom r table w := by
  intro s
  have hfirst : IsSecluded held (start files tables ⟨store, []⟩) := by
    refine ⟨nofun, fun place hplace => ?_⟩
    exact (List.mem_append.1 hplace).elim List.mem_range.1 (hstore place)
  have hs : IsSecluded held s := secluded_after hr hfirst operations
  have hledger : Ledger r.location [] (none : Option Mappings) := nofun
  refine ⟨⟨unwatched_after held r _ operations, fun operation => ?_⟩,
    ledger_after hr hfirst hledger operations,
    fun hnone operation => ?_, fun f => ⟨_, rfl, _, _, rfl⟩, fun table htable more => ?_⟩
  · rw [← unwatched_step]
  · exact step_of_none hr hs hnone operation
  · obtain ⟨hlater, hattempts⟩ := after_of_table hr hs htable more
    exact ⟨hlater, hattempts, fun operation =>
      (step_of_table hr (secluded_after hr hs more) hlater operation).2.2⟩

/-- A loader that is refused its table until it has one, and then hands out that one. -/
def lateLoader : ResourceLoader (Option Nat) where
  loadAll _ := do
    match (← get).store with
    | none => throw (.system .permission "denied")
    | some place => return place
  openResource path := throw (.system .notFound path)
  description := "late"

theorem lateLoader_reaching : lateLoader.Within (.reaching Option.toList) := by
  refine ⟨fun location => .bind (Frame.reaching _).refl fun w => ?_, fun path => .throw _⟩
  cases w.store with
  | none => exact .throw _
  | some place => exact .pure _

/-- After a refusal, a success and changes of the loader's table and of the one that was handed out there
were two attempts, and what was loaded is still there. -/
theorem loads_at_most_once_lateLoader :
    let table : Mappings := [("x", "a.xsd")]
    let r : SchemaResolver (Option Nat) := ⟨lateLoader, "a.schemas"⟩
    let operations : List (Operation (Option Nat)) :=
      [.showText, .resolve none (some "x"), .makeTable table, .changeStore fun _ => some 0,
        .showTable, .changeTable 0 fun _ => [], .changeTable 2 fun _ => [], .showTable]
    let s := (start (FileSystem.empty ["W"]) [] ⟨none, []⟩).afterWatched Option.toList r operations
    r.loader.Within (.reaching Option.toList) ∧ s.attempts.length = 2 ∧ s.known = [0, 2, 3] ∧
      [0, 1, 2, 3].map s.world.tables.content = [[], table, [], table] ∧
      Ledger r.location s.attempts (some table) := by
  intro table r operations s
  obtain ⟨-, hledger, -⟩ :=
    loads_at_most_once Option.toList r lateLoader_reaching (FileSystem.empty ["W"]) [] none nofun operations
  have hloaded : s.world.loaded = some table := by decide +kernel
  refine ⟨lateLoader_reaching, by decide +kernel, by decide +kernel, by decide +kernel, ?_⟩
  rw [← hloaded]
  exact hledger

end Session

end SchemaGate
