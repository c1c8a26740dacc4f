import SchemaGate.Proofs.Discipline
import SchemaGate.Resource.Resolver

/-! What resolvers and loaders do to a world.

    A resolver does what its loader does, tells of it and keeps the table; so it keeps to the frames
    that its loader keeps to. What its answers are is said in terms of the table and of what the loader
    answers (`runIn_mappings`, `runIn_resolve_some`, `runIn_serve`). -/

namespace SchemaGate

open Run (runIn Within)

/-- Whatever a loader is asked for, it keeps to a frame. -/
structure ResourceLoader.Within {σ : Type} (F : Frame σ) (loader : ResourceLoader σ) : Prop where
  loadAll : ∀ location, Run.Within F (loader.loadAll location)
  openResource : ∀ path, Run.Within F (loader.openResource path)

/-! ### Loaders of directories -/

namespace DirectoryLoader

section

variable {σ : Type} (D : RunDiscipline σ)

theorem readCandidate_holds (d : DirectoryLoader) (merged : Mappings) (candidate : Path) :
    D.Holds (d.readCandidate merged candidate) := by
  refine D.bind (D.askFiles _) fun isFile => ?_
  split
  · exact D.bind (D.log _ _ _) fun _ => D.bind (D.askFiles _) fun _ => D.bind (D.ofExcept _) fun _ =>
      D.pure _
  · exact D.pure _

theorem openFirst_holds (candidates : List Path) : D.Holds (openFirst candidates) := by
  induction candidates with
  | nil => exact D.pure _
  | cons candidate rest ih =>
    refine D.bind (D.askFiles _) fun isFile => ?_
    split
    · exact D.bind (D.askFiles _) fun _ => D.pure _
    · exact ih

/-- A loader of directories only asks and tells. -/
theorem loadAll_holds (d : DirectoryLoader) (location : Text) : D.Holds (d.loadAll location) :=
  D.foldlM (fun merged candidate => d.readCandidate_holds D merged candidate) _ _

theorem openResource_holds (d : DirectoryLoader) (path : Text) : D.Holds (d.openResource path) := by
  refine D.bind (openFirst_holds D _) fun found => ?_
  cases found with
  | none => exact D.throw _
  | some bytes => exact D.pure _

end

/-- The event that tells of a file to be read. -/
def reading (candidate : Path) : Event :=
  .logged ⟨.debug, .resources, "Reading properties from " ++ candidate.text⟩

theorem runIn_readCandidate {σ : Type} (d : DirectoryLoader) (merged : Mappings) (candidate : Path)
    (w : World σ) :
    runIn (d.readCandidate merged candidate) w =
      match w.files.isFile candidate.text with
      | .ok true =>
        ((w.files.read candidate.text >>= readText d.codecs d.encoding).map fun text =>
          Association.complete merged (Table.parse text), w.told (reading candidate))
      | .ok false => (.ok merged, w)
      | .error f => (.error f, w) := by
  rw [readCandidate, Run.runIn_bind, Run.runIn_askFiles]
  cases w.files.isFile candidate.text with
  | error f => rfl
  | ok isFile =>
    cases isFile with
    | false => rfl
    | true =>
      simp only [if_true, Run.runIn_bind, Run.runIn_log, Run.runIn_askFiles, World.files_told,
        Run.runIn_ofExcept]
      cases w.files.read candidate.text with
      | error f => rfl
      | ok bytes =>
        simp only [bind, Except.bind]
        cases readText d.codecs d.encoding bytes <;> rfl

theorem runIn_openFirst_cons {σ : Type} (candidate : Path) (rest : List Path) (w : World σ) :
    runIn (openFirst (candidate :: rest)) w =
      match w.files.isFile candidate.text with
      | .ok true => ((w.files.read candidate.text).map some, w)
      | .ok false => runIn (openFirst rest) w
      | .error f => (.error f, w) := by
  rw [openFirst, Run.runIn_bind, Run.runIn_askFiles]
  cases w.files.isFile candidate.text with
  | error f => rfl
  | ok isFile =>
    cases isFile with
    | false => rfl
    | true =>
      simp only [if_true, Run.runIn_bind, Run.runIn_askFiles]
      cases w.files.read candidate.text <;> rfl

theorem toLoader_within {σ : Type} {F : Frame σ} (d : DirectoryLoader) :
    (d.toLoader (σ := σ)).Within F :=
  ⟨fun location => .bind (d.loadAll_holds (Run.within F) location) .newTable,
    d.openResource_holds (Run.within F)⟩

end DirectoryLoader

/-! ### Resolvers -/

namespace SchemaResolver

variable {σ : Type}

/-- What a resolver answers when the resource it looked for was opened or not. -/
def opened (publicId : Option Text) (id : Text) :
    Except Failure Bytes → Except Failure (Option InputSource)
  | .ok bytes => .ok (some (.ofBytes bytes publicId (some id)))
  | .error f => if f.isNotFound then .ok none else .error f

/-- The event that tells of a request. -/
def request (publicId systemId : Option Text) : Event :=
  .logged ⟨.debug, .resolver, "Trying to resolve XML entity with public id [" ++ shownId publicId
    ++ "] and system id [" ++ shownId systemId ++ "]"⟩

theorem runIn_observe (action : Run σ Bytes) (w : World σ) :
    runIn (observe action) w = (.ok (runIn action w).1, (runIn action w).2) := by
  rw [observe, Run.runIn_tryCatch, Run.runIn_bind]
  rcases runIn action w with ⟨_ | _, _⟩ <;> rfl

theorem runIn_resolve_some (r : SchemaResolver σ) (publicId : Option Text) (id : Text)
    (w : World σ) :
    runIn (r.resolve publicId (some id)) w =
      runIn (r.mappings >>= r.serve publicId id) (w.told (request publicId (some id))) := rfl

/-- The event that tells of an attempt to load. -/
def attempt (location : Text) : Event :=
  .logged ⟨.debug, .resolver, "Loading schema mappings from [" ++ location ++ "]"⟩

/-- The event that tells of a table that was loaded. -/
def loaded (table : Mappings) : Event :=
  .logged ⟨.debug, .resolver, "Loaded " ++ Text.ofNat table.length ++ " schema mapping(s)"⟩

/-- What is loaded is the table at the place that the loader hands out, and it is copied. -/
theorem runIn_loadTable (r : SchemaResolver σ) (w : World σ) :
    runIn r.loadTable w =
      match runIn (r.loader.loadAll r.location) (w.told (attempt r.location)) with
      | (.ok place, w') =>
        (.ok w'.tables.next, (w'.told (loaded (w'.tables.content place))).adding (w'.tables.content place))
      | (.error f, w') => (.error (loadFailure r.location f), w') := by
  rw [loadTable, Run.runIn_bind, Run.runIn_log]
  dsimp only
  rw [Run.runIn_bind, Run.runIn_tryCatch, ← attempt]
  rcases runIn (r.loader.loadAll r.location) (w.told (attempt r.location)) with ⟨_ | _, _⟩ <;> rfl

/-- A resolver that keeps a table does not load. -/
theorem runIn_ownTable_of_kept (r : SchemaResolver σ) {w : World σ} {place : Nat}
    (h : w.tables.kept = some place) : runIn r.ownTable w = (.ok place, w) := by
  rw [ownTable, Run.runIn_bind, Run.runIn_get]
  simp only [h, Run.runIn_pure]

/-- A resolver that keeps no table loads one, and keeps a copy. -/
theorem runIn_ownTable_of_none (r : SchemaResolver σ) {w : World σ} (h : w.tables.kept = none) :
    runIn r.ownTable w =
      match runIn (r.loader.loadAll r.location) (w.told (attempt r.location)) with
      | (.ok place, w') =>
        (.ok w'.tables.next, (w'.told (loaded (w'.tables.content place))).having (w'.tables.content place))
      | (.error f, w') => (.error (loadFailure r.location f), w') := by
  rw [ownTable, Run.runIn_bind, Run.runIn_get]
  simp only [h]
  rw [Run.runIn_bind, runIn_loadTable]
  rcases runIn (r.loader.loadAll r.location) (w.told (attempt r.location)) with ⟨_ | _, _⟩ <;> rfl

theorem runIn_mappings (r : SchemaResolver σ) (w : World σ) :
    runIn r.mappings w =
      match w.loaded with
      | some table => (.ok table, w)
      | none =>
        match runIn (r.loader.loadAll r.location) (w.told (attempt r.location)) with
        | (.ok place, w') =>
          (.ok (w'.tables.content place),
            (w'.told (loaded (w'.tables.content place))).having (w'.tables.content place))
        | (.error f, w') => (.error (loadFailure r.location f), w') := by
  rw [mappings, Run.runIn_bind, World.loaded, TableMemory.loaded]
  cases h : w.tables.kept with
  | some place =>
    rw [runIn_ownTable_of_kept r h]
    rfl
  | none =>
    rw [runIn_ownTable_of_none r h, Option.map_none]
    rcases runIn (r.loader.loadAll r.location) (w.told (attempt r.location)) with ⟨f | place, w'⟩
    · rfl
    · simp only [Run.runIn_tableAt, World.having, World.tables_told, TableMemory.content_keepNew,
        TableMemory.content_add_next]

/-- A resolver that has the table does not load. -/
theorem runIn_mappings_of_table {r : SchemaResolver σ} {w : World σ} {table : Mappings}
    (h : w.loaded = some table) : runIn r.mappings w = (.ok table, w) := by
  rw [runIn_mappings, h]

/-- What a resolver hands out is a copy of the table. -/
theorem runIn_shownTable (r : SchemaResolver σ) (w : World σ) :
    runIn r.shownTable w =
      match runIn r.mappings w with
      | (.ok table, w') => (.ok w'.tables.next, w'.adding table)
      | (.error f, w') => (.error f, w') := by
  rw [shownTable, mappings, Run.runIn_bind, Run.runIn_bind]
  rcases runIn r.ownTable w with ⟨_ | _, _⟩ <;> rfl

theorem runIn_serve (r : SchemaResolver σ) (publicId : Option Text) (id : Text) (table : Mappings)
    (w : World σ) :
    (runIn (r.serve publicId id table) w).1 =
      match locationIn table id with
      | none => .ok none
      | some location => opened publicId id (runIn (r.loader.openResource location) w).1 := by
  rw [serve]
  cases locationIn table id with
  | none => rfl
  | some location =>
    simp only [Run.runIn_bind, runIn_observe]
    cases (runIn (r.loader.openResource location) w).1 with
    | ok bytes => rfl
    | error f =>
      by_cases hf : f.isNotFound
      · simp only [opened, if_pos hf]
        rfl
      · simp only [opened, if_neg hf]
        rfl

section Steps

variable (D : RunDiscipline σ) {r : SchemaResolver σ}

theorem serve_holds (h : ∀ path, D.Holds (r.loader.openResource path)) (publicId : Option Text)
    (id : Text) (table : Mappings) : D.Holds (r.serve publicId id table) := by
  rw [serve]
  cases locationIn table id with
  | none => exact D.pure _
  | some location =>
    refine D.bind ?_ fun outcome => ?_
    · exact D.tryCatch (D.bind (h _) fun _ => D.pure _) fun _ => D.pure _
    · cases outcome with
      | ok bytes => exact D.bind (D.log _ _ _) fun _ => D.pure _
      | error f =>
        dsimp only
        split
        · exact D.bind (D.log _ _ _) fun _ => D.pure _
        · exact D.throw _

theorem resolve_holds (hmappings : D.Holds r.mappings)
    (hopen : ∀ path, D.Holds (r.loader.openResource path)) (publicId systemId : Option Text) :
    D.Holds (r.resolve publicId systemId) := by
  refine D.bind (D.log _ _ _) fun _ => ?_
  cases systemId with
  | none => exact D.pure _
  | some id => exact D.bind hmappings (serve_holds D hopen publicId id)

end Steps

section Keeping

variable {F : Frame σ} {r : SchemaResolver σ} (h : r.loader.Within F)
  (hkeep : ∀ w place, F.rel w { w with tables := w.tables.keep place })

include h hkeep

omit hkeep in
theorem loadTable_within : Within F r.loadTable :=
  .bind (.log _ _ _) fun _ => .bind (.tryCatch (h.loadAll _) fun _ => .throw _) fun place =>
    .bind (.tableAt place) fun _ => .bind (.log _ _ _) fun _ => .bind (.tableAt place) .newTable

theorem mappings_within : Within F r.mappings := by
  refine .bind (.bind F.refl fun w => ?_) fun _ => .tableAt _
  split
  · exact .pure _
  · exact .bind (loadTable_within h) fun place =>
      .bind (fun w => hkeep w place) fun _ => .pure _

theorem resolve_within (publicId systemId : Option Text) :
    Within F (r.resolve publicId systemId) :=
  resolve_holds (Run.within F) (mappings_within h hkeep) h.openResource publicId systemId

end Keeping

end SchemaResolver

end SchemaGate
