import SchemaGate.Proofs.Loading.Behaviour
import SchemaGate.Proofs.Loading.Reader

/-! One reader for many documents.

    Only two things pass from one document to the next: a resolver keeps the table once it has loaded it,
    and a collecting handler keeps what it has heard. Worlds that differ in nothing else share files and
    table (`World.Shares`), and what a run does in one of them it does in all (`Run.Alike`). Taking the
    table is such a run, because to load it again would come to the same
    (`SchemaResolver.Steady.mappings`), and so is loading a document, because each step of it is. So a
    reader that was used before loads a document as a fresh one does (`loads_as_if_alone`). -/

namespace SchemaGate

open Run (runIn runIn_bind Within)

namespace World

variable {σ : Type} (fs : FileSystem) (table : Except Failure Mappings)

/-- A world holds the files, and if its table has been loaded it is what loading it comes to. -/
structure Shares (w : World σ) : Prop where
  files : w.files = fs
  table : ∀ t ∈ w.loaded, table = .ok t

/-- A later world shares files and table still, and these problems were told on the way to it. -/
structure Later (w : World σ) (told : List Problem) (w' : World σ) : Prop where
  shares : w'.Shares fs table
  events : ∃ events, w'.events = w.events ++ events ∧ problems events = told

theorem shares_start (store : σ) : (World.start fs store).Shares fs table := ⟨rfl, nofun⟩

variable {fs table} {u v w : World σ}

theorem Later.refl (h : w.Shares fs table) : w.Later fs table [] w :=
  ⟨h, [], (List.append_nil _).symm, rfl⟩

theorem Later.trans {told more : List Problem} (h : u.Later fs table told v)
    (h' : v.Later fs table more w) : u.Later fs table (told ++ more) w := by
  obtain ⟨-, events, hv, rfl⟩ := h
  obtain ⟨hw, events', hevents, rfl⟩ := h'
  exact ⟨hw, events ++ events', by rw [hevents, hv, List.append_assoc], problems_append _ _⟩

theorem later_told (h : w.Shares fs table) (e : Event) :
    w.Later fs table (problems [e]) (w.told e) :=
  ⟨⟨h.files, h.table⟩, [e], rfl, rfl⟩

theorem later_adding (h : w.Shares fs table) (t : Mappings) : w.Later fs table [] (w.adding t) :=
  ⟨⟨h.files, by simpa using h.table⟩, [], (List.append_nil _).symm, rfl⟩

theorem later_having (h : w.Shares fs table) {t : Mappings} (ht : table = .ok t) :
    w.Later fs table [] (w.having t) :=
  ⟨⟨h.files, by simpa using ht⟩, [], (List.append_nil _).symm, rfl⟩

end World

namespace Run

variable {σ α β : Type} (fs : FileSystem) (table : Except Failure Mappings)

/-- In every world that shares files and table a run ends in the same way and tells the same problems,
and what it leaves shares them, too. -/
def Gives (action : Run σ α) (outcome : Except Failure α) (told : List Problem) : Prop :=
  ∀ w, w.Shares fs table → ∃ w', runIn action w = (outcome, w') ∧ w.Later fs table told w'

/-- It does not matter to a run which of the worlds that share files and table it is made in. -/
def Alike (action : Run σ α) : Prop := ∃ outcome told, Gives fs table action outcome told

variable {fs table}

namespace Gives

variable {action : Run σ α} {outcome : Except Failure α} {told more : List Problem} {a : α} {f : Failure}

theorem pure (a : α) : Gives fs table (Pure.pure a : Run σ α) (.ok a) [] :=
  fun w h => ⟨w, rfl, .refl h⟩

theorem throw (f : Failure) : Gives fs table (MonadExcept.throw f : Run σ α) (.error f) [] :=
  fun w h => ⟨w, rfl, .refl h⟩

theorem bind {next : α → Run σ β} {outcome : Except Failure β}
    (h : Gives fs table action (.ok a) told) (hnext : Gives fs table (next a) outcome more) :
    Gives fs table (action >>= next) outcome (told ++ more) := by
  intro w hw
  obtain ⟨w₁, hfirst, hlater⟩ := h w hw
  obtain ⟨w₂, hsecond, hlater'⟩ := hnext w₁ hlater.shares
  exact ⟨w₂, by simp only [runIn_bind, hfirst, hsecond], hlater.trans hlater'⟩

theorem bind_error {next : α → Run σ β} (h : Gives fs table action (.error f) told) :
    Gives fs table (action >>= next) (.error f) told := by
  intro w hw
  obtain ⟨w₁, hfirst, hlater⟩ := h w hw
  exact ⟨w₁, by simp only [runIn_bind, hfirst], hlater⟩

theorem tryCatch {handle : Failure → Run σ α} (h : Gives fs table action (.ok a) told) :
    Gives fs table (MonadExcept.tryCatch action handle) (.ok a) told := by
  intro w hw
  obtain ⟨w₁, hfirst, hlater⟩ := h w hw
  exact ⟨w₁, by simp only [runIn_tryCatch, hfirst], hlater⟩

theorem tryCatch_error {handle : Failure → Run σ α} (h : Gives fs table action (.error f) told)
    (hhandle : Gives fs table (handle f) outcome more) :
    Gives fs table (MonadExcept.tryCatch action handle) outcome (told ++ more) := by
  intro w hw
  obtain ⟨w₁, hfirst, hlater⟩ := h w hw
  obtain ⟨w₂, hsecond, hlater'⟩ := hhandle w₁ hlater.shares
  exact ⟨w₂, by simp only [runIn_tryCatch, hfirst, hsecond], hlater.trans hlater'⟩

/-- What comes of a run, put at a new place, is found there. -/
theorem placed {action : Run σ Mappings} {outcome : Except Failure Mappings}
    (h : Gives fs table action outcome told) :
    Gives fs table ((action >>= Run.newTable) >>= Run.tableAt) outcome told := by
  intro w hw
  obtain ⟨w', hrun, hlater⟩ := h w hw
  cases outcome with
  | error f => exact ⟨w', by simp only [runIn_bind, hrun], hlater⟩
  | ok t =>
    refine ⟨w'.adding t, ?_, by simpa using hlater.trans (World.later_adding hlater.shares t)⟩
    simp only [runIn_bind, hrun, runIn_newTable, runIn_tableAt]
    rw [World.adding, TableMemory.content_add_next]

/-- A run that only writes records tells no problems. -/
theorem quiet (h : Gives fs table action outcome told) (hquiet : Within .onlyRecords action)
    (store : σ) : told = [] := by
  obtain ⟨w', hrun, -, events, hevents, rfl⟩ := h _ (World.shares_start fs table store)
  obtain ⟨records, hrecords⟩ := hquiet (World.start fs store)
  rw [hrun, hevents] at hrecords
  rw [List.append_cancel_left hrecords, problems_logged]

end Gives

namespace Alike

theorem bind {action : Run σ α} {next : α → Run σ β} (h : Alike fs table action)
    (hnext : ∀ a, Alike fs table (next a)) : Alike fs table (action >>= next) := by
  obtain ⟨outcome, told, h⟩ := h
  cases outcome with
  | error f => exact ⟨_, _, h.bind_error⟩
  | ok a =>
    obtain ⟨outcome, more, hnext⟩ := hnext a
    exact ⟨_, _, h.bind hnext⟩

theorem tryCatch {action : Run σ α} {handle : Failure → Run σ α} (h : Alike fs table action)
    (hhandle : ∀ f, Alike fs table (handle f)) : Alike fs table (MonadExcept.tryCatch action handle) := by
  obtain ⟨outcome, told, h⟩ := h
  cases outcome with
  | ok a => exact ⟨_, _, h.tryCatch⟩
  | error f =>
    obtain ⟨outcome, more, hhandle⟩ := hhandle f
    exact ⟨_, _, h.tryCatch_error hhandle⟩

theorem tell (e : Event) : Alike fs table (Run.tell e : Run σ Unit) :=
  ⟨_, _, fun _ h => ⟨_, rfl, World.later_told h e⟩⟩

theorem askFiles (question : FileSystem → Except Failure α) :
    Alike fs table (Run.askFiles question : Run σ α) := by
  refine ⟨question fs, [], fun w h => ⟨w, ?_, .refl h⟩⟩
  rw [runIn_askFiles, h.files]

end Alike

variable (σ fs table)

/-- That it does not matter in which world a run is made is a discipline. -/
def alike : RunDiscipline σ where
  Holds := Alike fs table
  pure a := ⟨_, _, .pure a⟩
  bind := .bind
  throw f := ⟨_, _, .throw f⟩
  tryCatch := .tryCatch
  log _ _ _ := .tell _
  askFiles := .askFiles

end Run

/-! ### Resolvers -/

/-- What a loader answers a resolver depends on the files alone, and the table is what loading it comes
to. -/
structure SchemaResolver.Steady {σ : Type} (fs : FileSystem) (table : Except Failure Mappings)
    (r : SchemaResolver σ) : Prop where
  loads : Run.Gives fs table (r.loader.loadAll r.location >>= Run.tableAt) table []
  opens : ∀ path, Run.Alike fs table (r.loader.openResource path)

theorem DirectoryLoader.exists_steady {σ : Type} (d : DirectoryLoader) (fs : FileSystem)
    (location : Text) (store : σ) :
    ∃ table, SchemaResolver.Steady (σ := σ) fs table ⟨d.toLoader, location⟩ := by
  let table := (runIn (d.loadAll location) (World.start fs store)).1
  refine ⟨table, ?_, d.openResource_holds (Run.alike σ fs table)⟩
  obtain ⟨outcome, told, h⟩ := d.loadAll_holds (Run.alike σ fs table) location
  obtain rfl := h.quiet (d.loadAll_holds (Run.within .onlyRecords) location) store
  obtain ⟨w', hrun, -⟩ := h _ (World.shares_start fs table store)
  obtain rfl : table = outcome := congrArg Prod.fst hrun
  exact h.placed

namespace SchemaResolver

variable {σ : Type} {fs : FileSystem} {table : Except Failure Mappings} {r : SchemaResolver σ}

/-- Whether the table has been loaded or not, a resolver comes to the same one. -/
theorem Steady.mappings (h : r.Steady fs table) : Run.Alike fs table r.mappings := by
  refine ⟨table.mapError (loadFailure r.location), [], fun w hw => ?_⟩
  rw [runIn_mappings]
  cases hkept : w.loaded with
  | some t =>
    obtain rfl := hw.table t hkept
    exact ⟨w, rfl, .refl hw⟩
  | none =>
    have hattempt := World.later_told hw (attempt r.location)
    obtain ⟨w', hload, hlater⟩ := h.loads _ hattempt.shares
    rw [runIn_bind] at hload
    dsimp only
    rcases hplace : runIn (r.loader.loadAll r.location) (w.told (attempt r.location)) with
      ⟨f | place, w₁⟩ <;> rw [hplace] at hload
    · obtain ⟨rfl, rfl⟩ := Prod.mk.inj hload
      exact ⟨w₁, rfl, hattempt.trans hlater⟩
    · obtain ⟨htable, rfl⟩ := Prod.mk.inj hload
      have hloaded := World.later_told hlater.shares (loaded (w₁.tables.content place))
      have hkeeps := World.later_having hloaded.shares htable.symm
      subst htable
      exact ⟨_, rfl, hattempt.trans (hlater.trans (hloaded.trans hkeeps))⟩

end SchemaResolver

/-! ### Readers -/

namespace DefinitionReader

variable {σ : Type} {fs : FileSystem} {table : Except Failure Mappings} {r : DefinitionReader σ}

/-- The resolver that settings describe searches directories. -/
theorem exists_toLoader_of_settings {codecs : Codecs} {engine : Xml.Engine} {s : Settings}
    (h : ofSettings codecs engine fs s = .ok r) :
    ∃ d : DirectoryLoader, r.resolver.loader = d.toLoader := by
  obtain ⟨directories, location, mode, encoding, -, -, -, -, -, rfl⟩ := ofSettings_eq_ok_iff.1 h
  exact ⟨_, rfl⟩

/-- The handler and the world after a reader has loaded files one after another, whatever became of
them. -/
def after (r : DefinitionReader σ) (h : Handler) (w : World σ) : List Path → Handler × World σ
  | [] => (h, w)
  | path :: rest => r.after (r.loadHeard h w path).1.handler (r.loadHeard h w path).2 rest

/-- It does not matter in which world a file is loaded. -/
theorem alike_load (h : r.resolver.Steady fs table) (path : Path) : Run.Alike fs table (r.load path) :=
  have hresolved := SchemaResolver.resolve_holds (Run.alike σ fs table) h.mappings h.opens
  load_holds (Run.alike σ fs table) r hresolved (fun _ _ => .tell _) path

/-- What a reader makes of a file in a world, and what a handler makes of that. -/
theorem loadHeard_eq (handler : Handler) (w : World σ) (path : Path) :
    r.loadHeard handler w path =
      (handler.attend (runIn (r.load path) { w with events := [] }).2.events
        (runIn (r.load path) { w with events := [] }).1,
      (runIn (r.load path) { w with events := [] }).2) := rfl

/-- A collecting handler hears of a file the same in every world, and enters it into its report. -/
theorem loadHeard_of_gives {path : Path} {outcome : Except Failure LoadedDocument}
    {told : List Problem} (h : Run.Gives fs table (r.load path) outcome told) (name : Option Text)
    (report : Report) {w : World σ} (hw : w.Shares fs table) :
    (r.loadHeard (.collecting name report) w path).1.outcome = outcome ∧
      (r.loadHeard (.collecting name report) w path).1.handler =
        .collecting name ((told.map (Handler.entry name)).foldl Report.add report) ∧
      (r.loadHeard (.collecting name report) w path).2.Shares fs table := by
  obtain ⟨w', hrun, hshares, events, hevents, rfl⟩ := h { w with events := [] } ⟨hw.files, hw.table⟩
  rw [List.nil_append] at hevents
  rw [loadHeard_eq, Handler.attend, hrun, Handler.hearAll_collecting, hevents]
  exact ⟨rfl, rfl, hshares⟩

/-- However many files have been loaded, the handler still collects and the world still shares the
table. -/
theorem shares_after (h : r.resolver.Steady fs table) (name : Option Text) (paths : List Path)
    (report : Report) {w : World σ} (hw : w.Shares fs table) :
    ∃ report', (r.after (.collecting name report) w paths).1 = .collecting name report' ∧
      (r.after (.collecting name report) w paths).2.Shares fs table := by
  induction paths generalizing report w with
  | nil => exact ⟨report, rfl, hw⟩
  | cons path rest ih =>
    obtain ⟨_, told, hgives⟩ := alike_load h path
    obtain ⟨-, hhandler, hshares⟩ := loadHeard_of_gives hgives name report hw
    rw [after, hhandler]
    exact ih _ hshares

/-- A reader that has loaded any files before gives a file the outcome that a fresh one gives it, and
enters into the report what the fresh one enters, whatever the engine and the codecs are. -/
theorem loads_as_if_alone {codecs : Codecs} {engine : Xml.Engine} {s : Settings}
    (h : ofSettings codecs engine fs s = .ok r) (store : σ) (name : Option Text) (before : List Path)
    (path : Path) :
    let shared := r.after (.collector name) (.start fs store) before
    let here := (r.loadHeard shared.1 shared.2 path).1
    let alone := (r.loadHeard (.collector name) (.start fs store) path).1
    here.outcome = alone.outcome ∧
      ∃ earlier added later : Report, shared.1 = .collecting name earlier ∧
        alone.handler = .collecting name added ∧ here.handler = .collecting name later ∧
        later.entries = earlier.entries ++ added.entries := by
  intro shared here alone
  obtain ⟨d, hloader⟩ := exists_toLoader_of_settings h
  obtain ⟨table, hsteady⟩ := d.exists_steady fs r.resolver.location store
  rw [← hloader] at hsteady
  have hstart := World.shares_start fs table store
  obtain ⟨earlier, hearlier, hshares⟩ := shares_after hsteady name before .empty hstart
  obtain ⟨outcome, told, hgives⟩ := alike_load hsteady path
  obtain ⟨halone, hadded, -⟩ := loadHeard_of_gives hgives name .empty hstart
  obtain ⟨hhere, hlater, -⟩ := loadHeard_of_gives hgives name earlier hshares
  rw [← hearlier] at hhere hlater
  refine ⟨hhere.trans halone.symm, earlier, _, _, hearlier, hadded, hlater, ?_⟩
  rw [Report.entries_foldl_add, Report.entries_foldl_add]
  rfl

/-- The reader that the usual settings describe. -/
def usual : DefinitionReader Unit :=
  ⟨.builtIn, true,
    ⟨(DirectoryLoader.mk .plain [FileSystem.cwdPath oneElement] DirectoryLoader.usualEncoding).toLoader,
      SchemaResolver.usualLocation⟩, .auto, false, ⟨.plain, usualEncoding⟩⟩

theorem ofSettings_usual : ofSettings .plain .builtIn oneElement .usual = .ok usual := by
  rfl

theorem entries_oneElement :
    (usual.loadHeard (.collector none) (.start oneElement ()) (Path.ofText "a")).1.handler.report?.map
      (fun report => report.entries.length) = some 1 := by
  decide +kernel

/-- Alone the file is entered once, for there is no schema. It is so again behind a file that is
missing and behind the file itself. -/
theorem loads_as_if_alone_oneElement :
    let before := [Path.ofText "b", Path.ofText "a"]
    let shared := usual.after (.collector none) (.start oneElement ()) before
    let here := (usual.loadHeard shared.1 shared.2 (Path.ofText "a")).1
    let alone := (usual.loadHeard (.collector none) (.start oneElement ()) (Path.ofText "a")).1
    ofSettings .plain .builtIn oneElement .usual = .ok usual ∧ here.outcome = alone.outcome ∧
      ∃ earlier later : Report, shared.1 = .collecting none earlier ∧
        here.handler = .collecting none later ∧ later.entries.length = earlier.entries.length + 1 := by
  obtain ⟨houtcome, earlier, added, later, hearlier, hadded, hlater, hentries⟩ :=
    loads_as_if_alone ofSettings_usual () none [Path.ofText "b", Path.ofText "a"] (Path.ofText "a")
  refine ⟨ofSettings_usual, houtcome, earlier, later, hearlier, hlater, ?_⟩
  have hone : added.entries.length = 1 := by
    have hreport := entries_oneElement
    rw [hadded] at hreport
    exact Option.some.inj hreport
  rw [hentries, List.length_append, hone]

end DefinitionReader

end SchemaGate
