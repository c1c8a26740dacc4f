import SchemaGate.Proofs.Resource.Directories
import SchemaGate.Proofs.Text.Occurrence

/-! What a resolver that has its table answers.

    An identifier is mapped by the table, or through its `http:` form (`Mapped`); then the resource at
    that location is opened, once and whatever the location is, and the answer is what comes of it
    (`runIn_serve_of_location`). To say what is opened and how often, a loader runs with a record of the
    paths it opens (`Traced`), which is written and never read. All of it together is what it means to go
    by the table (`goesByTable`). -/

namespace SchemaGate

open Run (runIn Within)
open Association (get?)

/-! ### A record of what is opened -/

/-- What a loader keeps, and the paths of the resources that it was asked to open so far. -/
structure Traced (σ : Type) where
  kept : σ
  opened : List Text

namespace World

variable {σ : Type}

/-- The world without the record. -/
def untraced (w : World (Traced σ)) : World σ := ⟨w.files, w.tables, w.store.kept, w.events⟩

/-- The world with a record. -/
def traced (w : World σ) (opened : List Text) : World (Traced σ) :=
  ⟨w.files, w.tables, ⟨w.store, opened⟩, w.events⟩

end World

namespace ResourceLoader

variable {σ : Type}

/-- The loader with a record of the paths that it opens. -/
def traced (loader : ResourceLoader σ) : ResourceLoader (Traced σ) where
  loadAll location := fun w =>
    let (outcome, w') := runIn (loader.loadAll location) w.untraced
    (outcome, w'.traced w.store.opened)
  openResource path := fun w =>
    let (outcome, w') := runIn (loader.openResource path) w.untraced
    (outcome, w'.traced (w.store.opened ++ [path]))
  description := loader.description

/-- What comes of opening a resource does not depend on what has been told before. -/
def Deaf (loader : ResourceLoader σ) : Prop :=
  ∀ path w e, (runIn (loader.openResource path) (w.told e)).1 = (runIn (loader.openResource path) w).1

end ResourceLoader

namespace DirectoryLoader

variable {σ : Type}

theorem runIn_openFirst_told (candidates : List Path) (w : World σ) (e : Event) :
    (runIn (openFirst candidates) (w.told e)).1 = (runIn (openFirst candidates) w).1 := by
  induction candidates with
  | nil => rfl
  | cons candidate rest ih =>
    rw [runIn_openFirst_cons, runIn_openFirst_cons, World.files_told]
    cases w.files.isFile candidate.text with
    | error f => rfl
    | ok isFile =>
      cases isFile with
      | false => exact ih
      | true => rfl

theorem outcome_openResource (d : DirectoryLoader) (path : Text) (w : World σ) :
    (runIn (d.openResource path) w).1 =
      (runIn (openFirst (d.candidates path)) w).1 >>= fun
        | some bytes => .ok bytes
        | none =>
          .error (.system .notFound ("Resource [" ++ path ++ "] not found in " ++ d.shownPaths)) := by
  rw [openResource, Run.runIn_bind]
  rcases runIn (openFirst (d.candidates path)) w with ⟨f | _ | bytes, w'⟩ <;> rfl

/-- A loader of directories looks at the files only. -/
theorem toLoader_deaf (d : DirectoryLoader) : (d.toLoader (σ := σ)).Deaf := by
  intro path w e
  change (runIn (d.openResource path) _).1 = (runIn (d.openResource path) _).1
  rw [outcome_openResource, outcome_openResource, runIn_openFirst_told]

end DirectoryLoader

namespace SchemaResolver

variable {σ : Type}

/-- The resolver with a record of the paths that its loader opens. -/
def traced (r : SchemaResolver σ) : SchemaResolver (Traced σ) := ⟨r.loader.traced, r.location⟩

/-! ### Locations -/

/-- A table maps an identifier to a location: it has the identifier as a key, or else the same identifier
with `http:` in place of `https:`. -/
def Mapped (table : Mappings) (id location : Text) : Prop :=
  get? id table = some location ∨
    get? id table = none ∧ ∃ rest, id = "https:" ++ rest ∧ get? ("http:" ++ rest) table = some location

theorem plainForm?_eq_some_iff {id plain : Text} :
    plainForm? id = some plain ↔ ∃ rest, id = "https:" ++ rest ∧ plain = "http:" ++ rest := by
  rw [plainForm?, Option.map_eq_some_iff]
  constructor
  · rintro ⟨rest, hrest, rfl⟩
    exact ⟨rest, dropPrefix?_eq_some hrest, rfl⟩
  · rintro ⟨rest, rfl, rfl⟩
    exact ⟨rest, dropPrefix?_append _ _, rfl⟩

theorem locationIn_eq_some_iff {table : Mappings} {id location : Text} :
    locationIn table id = some location ↔ Mapped table id location := by
  rw [locationIn, Mapped]
  cases get? id table with
  | some l => simp
  | none =>
    simp only [Option.bind_eq_some_iff, plainForm?_eq_some_iff]
    constructor
    · rintro ⟨_, ⟨rest, rfl, rfl⟩, hget⟩
      exact .inr ⟨trivial, rest, rfl, hget⟩
    · rintro (⟨⟨⟩⟩ | ⟨-, rest, rfl, hget⟩)
      exact ⟨_, ⟨rest, rfl, rfl⟩, hget⟩

theorem locationIn_eq_none_iff {table : Mappings} {id : Text} :
    locationIn table id = none ↔ ∀ location, ¬ Mapped table id location := by
  simp only [Option.eq_none_iff_forall_ne_some, ne_eq, locationIn_eq_some_iff]

/-- Without an entry of its own an `https:` identifier is at the location of the `http:` one. -/
theorem locationIn_https {table : Mappings} {rest : Text} (h : get? ("https:" ++ rest) table = none) :
    locationIn table ("https:" ++ rest) = locationIn table ("http:" ++ rest) := by
  have hplain : plainForm? ("http:" ++ rest) = none := by
    rfl
  rw [locationIn, h, locationIn, hplain, Option.bind_none,
    plainForm?_eq_some_iff.2 ⟨rest, rfl, rfl⟩, Option.bind_some]
  cases get? ("http:" ++ rest) table <;> rfl

/-! ### Answers -/

/-- What is told of a resource that was opened or not. -/
def tidings (id location : Text) : Except Failure Bytes → List Event
  | .ok _ => [.logged ⟨.debug, .resolver, "Found XML schema [" ++ id ++ "] at: " ++ location⟩]
  | .error f =>
    if f.isNotFound then
      [.logged ⟨.debug, .resolver,
        "Could not find XML schema [" ++ id ++ "]: " ++ f.message?.getD []⟩]
    else []

section

variable (r : SchemaResolver σ) (publicId : Option Text)

/-- What is at a location is opened once, and that decides the answer. -/
theorem runIn_serve_of_location {table : Mappings} {id location : Text}
    (h : locationIn table id = some location) (w : World σ) :
    runIn (r.serve publicId id table) w =
      (opened publicId id (runIn (r.loader.openResource location) w).1,
        { (runIn (r.loader.openResource location) w).2 with
          events := (runIn (r.loader.openResource location) w).2.events ++
            tidings id location (runIn (r.loader.openResource location) w).1 }) := by
  rw [serve, h]
  dsimp only
  rw [Run.runIn_bind, runIn_observe]
  rcases runIn (r.loader.openResource location) w with ⟨f | bytes, w'⟩
  · dsimp only [opened, tidings]
    split
    · rfl
    · rw [List.append_nil]
      rfl
  · rfl

/-- Without a location nothing is opened. -/
theorem runIn_serve_of_none {table : Mappings} {id : Text} (h : locationIn table id = none)
    (w : World σ) : runIn (r.serve publicId id table) w = (.ok none, w) := by
  rw [serve, h]
  rfl

/-- With a table a request is told of and served. -/
theorem runIn_resolve_of_table {w : World σ} {table : Mappings} (h : w.loaded = some table) (id : Text) :
    runIn (r.resolve publicId (some id)) w =
      runIn (r.serve publicId id table) (w.told (request publicId (some id))) := by
  have hkept : (w.told (request publicId (some id))).loaded = some table := h
  rw [runIn_resolve_some, Run.runIn_bind, runIn_mappings_of_table hkept]

/-- A resolver with a table runs with the record as it does without it. -/
theorem traced_resolve {w : World σ} {table : Mappings} (h : w.loaded = some table)
    (systemId : Option Text) (before : List Text) :
    ((runIn (r.traced.resolve publicId systemId) (w.traced before)).1,
      (runIn (r.traced.resolve publicId systemId) (w.traced before)).2.untraced) =
        runIn (r.resolve publicId systemId) w := by
  cases systemId with
  | none => rfl
  | some id =>
    have htraced : (w.traced before).loaded = some table := h
    rw [r.runIn_resolve_of_table publicId h, r.traced.runIn_resolve_of_table publicId htraced]
    cases hlocation : locationIn table id with
    | none => rw [runIn_serve_of_none _ _ hlocation, runIn_serve_of_none _ _ hlocation]; rfl
    | some location =>
      rw [runIn_serve_of_location _ _ hlocation, runIn_serve_of_location _ _ hlocation]
      rfl

end

/-- What a resolver answers in a world. -/
def answer (r : SchemaResolver σ) (w : World σ) (publicId systemId : Option Text) :
    Except Failure (Option InputSource) :=
  (runIn (r.resolve publicId systemId) w).1

/-- The paths that are opened for an answer, one after another. -/
def openedFor (r : SchemaResolver σ) (w : World σ) (publicId systemId : Option Text) : List Text :=
  (runIn (r.traced.resolve publicId systemId) (w.traced [])).2.store.opened

/-- A resolver with a table goes by it. -/
structure GoesByTable (r : SchemaResolver σ) (w : World σ) (table : Mappings) : Prop where
  /-- To keep a record of what is opened changes nothing. -/
  untraced : ∀ publicId systemId,
    ((runIn (r.traced.resolve publicId systemId) (w.traced [])).1,
      (runIn (r.traced.resolve publicId systemId) (w.traced [])).2.untraced) =
        runIn (r.resolve publicId systemId) w
  /-- Whatever is asked for and whatever comes of it, the table stays as it is. -/
  keeps : ∀ publicId systemId, (runIn (r.resolve publicId systemId) w).2.loaded = some table
  /-- Without a system identifier there is nothing to answer. -/
  anonymous : ∀ publicId, r.answer w publicId none = .ok none ∧ r.openedFor w publicId none = []
  /-- For an identifier that is not mapped nothing is opened. -/
  unmapped : ∀ publicId id, (∀ location, ¬ Mapped table id location) →
    r.answer w publicId (some id) = .ok none ∧ r.openedFor w publicId (some id) = []
  /-- Where an identifier is mapped to is opened once. The bytes that are there are handed out under the
  identifiers of the request; a resource that is not found is as good as none, and any other failure
  stays as it is. -/
  mapped : ∀ publicId id location, Mapped table id location →
    r.openedFor w publicId (some id) = [location] ∧
      (∀ bytes, (runIn (r.loader.openResource location) w).1 = .ok bytes →
        ∃ source, r.answer w publicId (some id) = .ok (some source) ∧ source.publicId = publicId ∧
          source.systemId = some id ∧ ∀ fs, (source.read fs).1 = .ok bytes) ∧
      ∀ f, (runIn (r.loader.openResource location) w).1 = .error f →
        r.answer w publicId (some id) = if f.isNotFound then .ok none else .error f
  /-- An `https:` identifier without an entry of its own is answered as the `http:` one is. -/
  schemes : ∀ rest : Text, get? ("https:" ++ rest) table = none → ∀ publicId publicId',
    let secure := r.answer w publicId (some ("https:" ++ rest))
    let plain := r.answer w publicId' (some ("http:" ++ rest))
    (secure = .ok none ∧ plain = .ok none) ∨
      (∃ source source' bytes, secure = .ok (some source) ∧ plain = .ok (some source') ∧
        ∀ fs, (source.read fs).1 = .ok bytes ∧ (source'.read fs).1 = .ok bytes) ∨
      ∃ f, secure = .error f ∧ plain = .error f

section

variable {r : SchemaResolver σ} {w : World σ} {table : Mappings} (h : w.loaded = some table)

include h

theorem openedFor_of_location {id location : Text} (hlocation : locationIn table id = some location)
    (publicId : Option Text) : r.openedFor w publicId (some id) = [location] := by
  have htraced : (w.traced []).loaded = some table := h
  rw [openedFor, r.traced.runIn_resolve_of_table publicId htraced, runIn_serve_of_location _ _ hlocation]
  rfl

theorem openedFor_of_none {id : Text} (hlocation : locationIn table id = none)
    (publicId : Option Text) : r.openedFor w publicId (some id) = [] := by
  have htraced : (w.traced []).loaded = some table := h
  rw [openedFor, r.traced.runIn_resolve_of_table publicId htraced, runIn_serve_of_none _ _ hlocation]
  rfl

theorem answer_of_none {id : Text} (hlocation : locationIn table id = none) (publicId : Option Text) :
    r.answer w publicId (some id) = .ok none := by
  rw [answer, r.runIn_resolve_of_table publicId h, runIn_serve_of_none _ _ hlocation]

theorem answer_of_location (hdeaf : r.loader.Deaf) {id location : Text}
    (hlocation : locationIn table id = some location) (publicId : Option Text) :
    r.answer w publicId (some id) =
      opened publicId id (runIn (r.loader.openResource location) w).1 := by
  rw [answer, r.runIn_resolve_of_table publicId h, runIn_serve_of_location _ _ hlocation, hdeaf]

theorem table_resolve (hopen : ∀ path, Within .sameTable (r.loader.openResource path))
    (publicId systemId : Option Text) : (runIn (r.resolve publicId systemId) w).2.loaded = some table := by
  cases systemId with
  | none => exact h
  | some id =>
    have hserve := serve_holds (Run.within .sameTable) hopen publicId id table
      (w.told (request publicId (some id)))
    rw [r.runIn_resolve_of_table publicId h]
    exact hserve.trans h

theorem answers_agree (hdeaf : r.loader.Deaf) {rest : Text} (hkey : get? ("https:" ++ rest) table = none)
    (publicId publicId' : Option Text) :
    let secure := r.answer w publicId (some ("https:" ++ rest))
    let plain := r.answer w publicId' (some ("http:" ++ rest))
    (secure = .ok none ∧ plain = .ok none) ∨
      (∃ source source' bytes, secure = .ok (some source) ∧ plain = .ok (some source') ∧
        ∀ fs, (source.read fs).1 = .ok bytes ∧ (source'.read fs).1 = .ok bytes) ∨
      ∃ f, secure = .error f ∧ plain = .error f := by
  intro secure plain
  have hsame := locationIn_https hkey
  cases hlocation : locationIn table ("http:" ++ rest) with
  | none => exact .inl ⟨answer_of_none h (hsame.trans hlocation) _, answer_of_none h hlocation _⟩
  | some location =>
    have hsecure : secure = _ := answer_of_location h hdeaf (hsame.trans hlocation) publicId
    have hplain : plain = _ := answer_of_location h hdeaf hlocation publicId'
    cases hopened : (runIn (r.loader.openResource location) w).1 with
    | ok bytes =>
      rw [hopened] at hsecure hplain
      exact .inr (.inl ⟨_, _, bytes, hsecure, hplain, fun _ => ⟨rfl, rfl⟩⟩)
    | error f =>
      rw [hopened, opened] at hsecure hplain
      by_cases hf : f.isNotFound = true
      · rw [if_pos hf] at hsecure hplain
        exact .inl ⟨hsecure, hplain⟩
      · rw [if_neg hf] at hsecure hplain
        exact .inr (.inr ⟨f, hsecure, hplain⟩)

/-- A resolver that has its table goes by it, whatever table it is. Of its loader only this is asked: it
leaves the table alone, and what it opens does not depend on what has been told before. -/
theorem goesByTable (hopen : ∀ path, Within .sameTable (r.loader.openResource path))
    (hdeaf : r.loader.Deaf) : r.GoesByTable w table where
  untraced publicId systemId := r.traced_resolve publicId h systemId []
  keeps := table_resolve h hopen
  anonymous _ := ⟨rfl, rfl⟩
  unmapped publicId id hid := by
    have hlocation := locationIn_eq_none_iff.2 hid
    exact ⟨answer_of_none h hlocation publicId, openedFor_of_none h hlocation publicId⟩
  mapped publicId id location hid := by
    have hlocation := locationIn_eq_some_iff.2 hid
    have hanswer := answer_of_location h hdeaf hlocation publicId
    refine ⟨openedFor_of_location h hlocation publicId, fun bytes hbytes => ?_, fun f hf => ?_⟩
    · rw [hbytes] at hanswer
      exact ⟨_, hanswer, rfl, rfl, fun _ => rfl⟩
    · rw [hanswer, hf, opened]
  schemes _ hkey := answers_agree h hdeaf hkey

end

/-- A resolver that searches one directory. -/
def overOneDirectory : SchemaResolver Unit :=
  ⟨(DirectoryLoader.mk .plain [Path.ofText "a"] DirectoryLoader.usualEncoding).toLoader, usualLocation⟩

/-- A table with an `http:` identifier and with one at an empty location. -/
def twoEntries : Mappings := [("http:x", "t"), ("y", "")]

/-- A world in which the table has been loaded. -/
def withTwoEntries : World Unit :=
  { World.start DirectoryLoader.twoDirectories () with tables := .holding twoEntries }

theorem open_overOneDirectory :
    (runIn (overOneDirectory.loader.openResource "t") withTwoEntries).1 =
      .ok (Utf8.encode "k=1\nk=2".toList) :=
  Outcome.eq_ok_of_toOption (by decide +kernel)

theorem exists_open_overOneDirectory :
    ∃ f, (runIn (overOneDirectory.loader.openResource "") withTwoEntries).1 = .error f ∧
      f.isNotFound = true := ⟨_, rfl, rfl⟩

/-- An `https:` identifier is served by way of the `http:` one and keeps its name; an empty location is
looked up, and nothing is there. -/
theorem goesByTable_twoEntries :
    (withTwoEntries.loaded = some twoEntries ∧
      (∀ path, Within .sameTable (overOneDirectory.loader.openResource path)) ∧
      overOneDirectory.loader.Deaf) ∧
    overOneDirectory.openedFor withTwoEntries none (some "https:x") = [("t" : Text)] ∧
    (∃ source, overOneDirectory.answer withTwoEntries none (some "https:x") = .ok (some source) ∧
      source.systemId = some ("https:x" : Text) ∧
        ∀ fs, (source.read fs).1 = .ok (Utf8.encode "k=1\nk=2".toList)) ∧
    overOneDirectory.answer withTwoEntries none (some "y") = .ok none := by
  have hopen : ∀ path, Within .sameTable (overOneDirectory.loader.openResource path) :=
    (DirectoryLoader.toLoader_within _).openResource
  have hdeaf : overOneDirectory.loader.Deaf := DirectoryLoader.toLoader_deaf _
  have htable : withTwoEntries.loaded = some twoEntries := rfl
  have hx : Mapped twoEntries "https:x" "t" := .inr ⟨by decide, "x", by decide, by decide⟩
  have hy : Mapped twoEntries "y" "" := .inl (by decide)
  have hlaw := goesByTable htable hopen hdeaf
  obtain ⟨honce, hfound, -⟩ := hlaw.mapped none "https:x" "t" hx
  obtain ⟨-, -, hfailed⟩ := hlaw.mapped none "y" "" hy
  obtain ⟨source, hanswer, -, hid, hbytes⟩ := hfound _ open_overOneDirectory
  obtain ⟨f, hf, hmissing⟩ := exists_open_overOneDirectory
  have hempty := hfailed f hf
  rw [if_pos hmissing] at hempty
  exact ⟨⟨htable, hopen, hdeaf⟩, honce, ⟨source, hanswer, hid, hbytes⟩, hempty⟩

end SchemaResolver

end SchemaGate
