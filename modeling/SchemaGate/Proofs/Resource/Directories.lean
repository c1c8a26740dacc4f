import SchemaGate.Proofs.Behaviour
import SchemaGate.Proofs.Table.Composition

/-! Searching through directories.

    Two rules of precedence meet in a table that is loaded from directories: in a file the last
    definition of a key counts, and of the directories the first whose file has one. Reading the files
    one after another comes to the same as gathering the definitions of all of them (`loadFrom_eq`), so
    what a root adds can be told from the keys that its file defines (`loadFrom_insert`). A resource is
    opened in the first root that has a file (`openFrom_eq_ok_iff`). All of it together is what it means
    to search in order (`searchesInOrder`). -/

namespace SchemaGate

open Run (runIn runIn_bind)
open Association (get? last? newKeys complete update gather)

namespace DirectoryLoader

variable {σ : Type}

/-- Where a root has the file of a location. The slashes that the location starts with do not count. -/
def fileIn (root location : Text) : Path :=
  (Path.ofText root).join (Path.ofText (location.dropWhile (· = .char '/')))

/-- The definitions in a file, in their order; none if there is no such file. -/
def definitionsAt (fs : FileSystem) (codecs : Codecs) (encoding : Text) (file : Path) :
    Except Failure Mappings := do
  if ← fs.isFile file.text then (fs.read file.text >>= readText codecs encoding).map Table.entries
  else return []

/-- The definitions that a root has for a location. -/
def definitionsIn (fs : FileSystem) (codecs : Codecs) (encoding location root : Text) :
    Except Failure Mappings :=
  definitionsAt fs codecs encoding (fileIn root location)

/-- The last definition of a key that a root has for a location gives it a value. -/
def Defines (fs : FileSystem) (codecs : Codecs) (encoding location root key value : Text) : Prop :=
  ∃ entries, definitionsIn fs codecs encoding location root = .ok entries ∧ last? key entries = some value

/-- What comes of loading the tables at a location. -/
def loadFrom (w : World σ) (codecs : Codecs) (encoding location : Text) (roots : List Text) :
    Except Failure Mappings :=
  (runIn ((ofPaths codecs w.files roots encoding).loadAll location) w).1

/-- What comes of opening a resource. -/
def openFrom (w : World σ) (codecs : Codecs) (encoding path : Text) (roots : List Text) :
    Except Failure Bytes :=
  (runIn ((ofPaths codecs w.files roots encoding).openResource path) w).1

theorem candidates_ofPaths {roots : List Text} (h : roots ≠ []) (codecs : Codecs) (fs : FileSystem)
    (encoding location : Text) :
    (ofPaths codecs fs roots encoding).candidates location = roots.map (fileIn · location) := by
  have hempty : roots.isEmpty = false := by simpa using h
  simp [candidates, ofPaths, hempty, fileIn]

/-! ### Tables -/

theorem exists_runIn_readCandidate (d : DirectoryLoader) (merged : Mappings) (candidate : Path)
    (w : World σ) :
    ∃ w', w'.files = w.files ∧ runIn (d.readCandidate merged candidate) w =
      ((definitionsAt w.files d.codecs d.encoding candidate).map fun entries =>
        complete merged (update [] entries), w') := by
  rw [runIn_readCandidate, definitionsAt]
  cases w.files.isFile candidate.text with
  | error f => exact ⟨w, rfl, rfl⟩
  | ok isFile =>
    cases isFile with
    | false => exact ⟨w, rfl, rfl⟩
    | true =>
      refine ⟨w.told (reading candidate), rfl, ?_⟩
      dsimp only
      cases w.files.read candidate.text >>= readText d.codecs d.encoding <;> rfl

theorem outcome_foldlM_readCandidate (d : DirectoryLoader) (candidates : List Path) (merged : Mappings)
    (w : World σ) :
    (runIn (candidates.foldlM d.readCandidate merged) w).1 = candidates.foldlM
      (fun merged file => (definitionsAt w.files d.codecs d.encoding file).map fun entries =>
        complete merged (update [] entries)) merged := by
  induction candidates generalizing merged w with
  | nil => rfl
  | cons candidate rest ih =>
    obtain ⟨w', hfiles, hread⟩ := d.exists_runIn_readCandidate merged candidate w
    rw [List.foldlM_cons, List.foldlM_cons, runIn_bind, hread]
    cases definitionsAt w.files d.codecs d.encoding candidate with
    | error f => rfl
    | ok entries =>
      -- the world behind it may have one more record, but its files are the same
      have hrest := ih (complete merged (update [] entries)) w'
      rw [hfiles] at hrest
      exact hrest

section

variable {w : World σ} {codecs : Codecs} {encoding location : Text} {roots : List Text}

/-- Loading comes to what is gathered from the definitions of all roots. -/
theorem loadFrom_eq (h : roots ≠ []) : loadFrom w codecs encoding location roots =
    (roots.mapM (definitionsIn w.files codecs encoding location)).map gather := by
  rw [loadFrom, loadAll, outcome_foldlM_readCandidate, candidates_ofPaths h, List.foldlM_map,
    Outcome.foldlM_map]
  rfl

theorem loadFrom_eq_ok_iff (h : roots ≠ []) {table : Mappings} :
    loadFrom w codecs encoding location roots = .ok table ↔
      ∃ lists, roots.mapM (definitionsIn w.files codecs encoding location) = .ok lists ∧
        gather lists = table := by
  rw [loadFrom_eq h, Outcome.map_eq_ok]

/-- Loading fails as soon as one root fails. -/
theorem exists_loadFrom_iff (h : roots ≠ []) :
    (∃ table, loadFrom w codecs encoding location roots = .ok table) ↔
      ∀ root ∈ roots, ∃ entries, definitionsIn w.files codecs encoding location root = .ok entries := by
  rw [← Outcome.exists_mapM_eq_ok]
  simp only [loadFrom_eq_ok_iff h]
  constructor
  · rintro ⟨_, lists, hlists, -⟩
    exact ⟨lists, hlists⟩
  · rintro ⟨lists, hlists⟩
    exact ⟨_, lists, hlists, rfl⟩

theorem definitionsIn_of_not_isFile {root : Text}
    (h : w.files.isFile (fileIn root location).text = .ok false) :
    definitionsIn w.files codecs encoding location root = .ok [] := by
  rw [definitionsIn, definitionsAt, h]
  rfl

theorem definitionsIn_of_readText {root : Text} {bytes : Bytes} {f : Failure}
    (hfile : w.files.isFile (fileIn root location).text = .ok true)
    (hread : w.files.read (fileIn root location).text = .ok bytes)
    (htext : readText codecs encoding bytes = .error f) :
    definitionsIn w.files codecs encoding location root = .error f := by
  rw [definitionsIn, definitionsAt, hfile, hread]
  exact congrArg (Except.map Table.entries) htext

theorem get?_of_loadFrom (h : roots ≠ []) {table : Mappings}
    (hload : loadFrom w codecs encoding location roots = .ok table) (key value : Text) :
    get? key table = some value ↔ ∃ front root behind, roots = front ++ root :: behind ∧
      Defines w.files codecs encoding location root key value ∧
        ∀ earlier ∈ front, ∀ v, ¬ Defines w.files codecs encoding location earlier key v := by
  obtain ⟨lists, hlists, rfl⟩ := (loadFrom_eq_ok_iff h).1 hload
  have hnone (root : Text) : (∀ entries, definitionsIn w.files codecs encoding location root = .ok entries →
      last? key entries = none) ↔ ∀ v, ¬ Defines w.files codecs encoding location root key v := by
    constructor
    · rintro hlast v ⟨entries, hentries, hv⟩
      rw [hlast entries hentries] at hv
      cases hv
    · intro hdefines entries hentries
      exact Option.eq_none_iff_forall_ne_some.2 fun v hv => hdefines v ⟨entries, hentries, hv⟩
  rw [Association.get?_gather, Outcome.findSome?_eq_some_of_mapM hlists]
  simp only [hnone]
  rfl

theorem loadFrom_append (h : roots ≠ []) {more : List Text} (hmore : more ≠ []) :
    loadFrom w codecs encoding location (roots ++ more) = do
      let table ← loadFrom w codecs encoding location roots
      let other ← loadFrom w codecs encoding location more
      return complete table other := by
  rw [loadFrom_eq (by simp [h]), loadFrom_eq h, loadFrom_eq hmore, List.mapM_append]
  cases roots.mapM (definitionsIn w.files codecs encoding location) with
  | error f => rfl
  | ok lists =>
    cases more.mapM (definitionsIn w.files codecs encoding location) with
    | error f => rfl
    | ok others => exact congrArg Except.ok (Association.gather_append lists others)

/-- A root whose keys all come from roots in front of it adds nothing. -/
theorem loadFrom_insert {front behind : List Text} (h : front ++ behind ≠ []) {root : Text}
    (hroot : ∀ lists, front.mapM (definitionsIn w.files codecs encoding location) = .ok lists →
      ∃ entries, definitionsIn w.files codecs encoding location root = .ok entries ∧
        ∀ key ∈ entries.map Prod.fst, key ∈ lists.flatten.map Prod.fst) :
    loadFrom w codecs encoding location (front ++ root :: behind) =
      loadFrom w codecs encoding location (front ++ behind) := by
  rw [loadFrom_eq (by simp), loadFrom_eq h, List.mapM_append, List.mapM_append, List.mapM_cons]
  cases hfront : front.mapM (definitionsIn w.files codecs encoding location) with
  | error f => rfl
  | ok lists =>
    obtain ⟨entries, hentries, hkeys⟩ := hroot lists hfront
    rw [hentries]
    cases behind.mapM (definitionsIn w.files codecs encoding location) with
    | error f => rfl
    | ok others => exact congrArg Except.ok (Association.gather_append_cons hkeys others)

theorem loadFrom_again {root again : Text} (hroot : root ∈ roots)
    (hsame : Path.ofText again = Path.ofText root) (behind : List Text) :
    loadFrom w codecs encoding location (roots ++ again :: behind) =
      loadFrom w codecs encoding location (roots ++ behind) := by
  have hin : definitionsIn w.files codecs encoding location again =
      definitionsIn w.files codecs encoding location root := by
    rw [definitionsIn, definitionsIn, fileIn, fileIn, hsame]
  -- what the root defines is among the lists gathered so far
  refine loadFrom_insert (by simp [List.ne_nil_of_mem hroot]) fun lists hlists => ?_
  have hmem : definitionsIn w.files codecs encoding location root ∈ lists.map .ok :=
    Outcome.mapM_eq_ok.1 hlists ▸ List.mem_map_of_mem hroot
  obtain ⟨entries, hentries, heq⟩ := List.mem_map.1 hmem
  refine ⟨entries, hin.trans heq.symm, fun key hkey => ?_⟩
  obtain ⟨e, he, rfl⟩ := List.mem_map.1 hkey
  exact List.mem_map_of_mem (List.mem_flatten_of_mem hentries he)

theorem loadFrom_missing {front behind : List Text} (h : front ++ behind ≠ []) {root : Text}
    (hroot : w.files.isFile (fileIn root location).text = .ok false) :
    loadFrom w codecs encoding location (front ++ root :: behind) =
      loadFrom w codecs encoding location (front ++ behind) :=
  loadFrom_insert h fun _ _ => ⟨[], definitionsIn_of_not_isFile hroot, by simp⟩

/-! ### Resources -/

/-- Roots that have no file are passed. -/
theorem runIn_openFirst_append {front : List Text}
    (h : ∀ root ∈ front, w.files.isFile (fileIn root location).text = .ok false) (behind : List Text) :
    runIn (openFirst ((front ++ behind).map (fileIn · location))) w =
      runIn (openFirst (behind.map (fileIn · location))) w := by
  induction front with
  | nil => rfl
  | cons root front ih =>
    rw [List.forall_mem_cons] at h
    rw [List.cons_append, List.map_cons, runIn_openFirst_cons, h.1]
    exact ih h.2

theorem openFrom_eq (h : roots ≠ []) : openFrom w codecs encoding location roots =
    match (runIn (openFirst (roots.map (fileIn · location))) w).1 with
    | .ok (some bytes) => .ok bytes
    | .ok none => .error (.system .notFound
        ("Resource [" ++ location ++ "] not found in " ++ (ofPaths codecs w.files roots encoding).shownPaths))
    | .error f => .error f := by
  rw [openFrom, openResource, candidates_ofPaths h, runIn_bind]
  rcases runIn (openFirst (roots.map (fileIn · location))) w with ⟨f | _ | bytes, w'⟩ <;> rfl

/-- The first file alone decides, whether or not it can be read. -/
theorem openFrom_of_file {front behind : List Text} {root : Text}
    (hfront : ∀ earlier ∈ front, w.files.isFile (fileIn earlier location).text = .ok false)
    (hfile : w.files.isFile (fileIn root location).text = .ok true) :
    openFrom w codecs encoding location (front ++ root :: behind) =
      w.files.read (fileIn root location).text := by
  rw [openFrom_eq (by simp), runIn_openFirst_append hfront, List.map_cons, runIn_openFirst_cons, hfile]
  cases w.files.read (fileIn root location).text <;> rfl

theorem openFrom_of_error {front behind : List Text} {root : Text} {f : Failure}
    (hfront : ∀ earlier ∈ front, w.files.isFile (fileIn earlier location).text = .ok false)
    (hfile : w.files.isFile (fileIn root location).text = .error f) :
    openFrom w codecs encoding location (front ++ root :: behind) = .error f := by
  rw [openFrom_eq (by simp), runIn_openFirst_append hfront, List.map_cons, runIn_openFirst_cons, hfile]

theorem openFrom_of_none (encoding : Text) (h : roots ≠ [])
    (hnone : ∀ root ∈ roots, w.files.isFile (fileIn root location).text = .ok false) :
    ∃ f, openFrom w codecs encoding location roots = .error f ∧ f.isNotFound = true := by
  have hpassed := runIn_openFirst_append hnone []
  rw [List.append_nil] at hpassed
  rw [openFrom_eq h, hpassed]
  exact ⟨_, rfl, rfl⟩

/-- No root has a file, or there is a first one of which that cannot be said. -/
theorem exists_first_file (fs : FileSystem) (location : Text) (roots : List Text) :
    (∀ root ∈ roots, fs.isFile (fileIn root location).text = .ok false) ∨
      ∃ front root behind, roots = front ++ root :: behind ∧
        (∀ earlier ∈ front, fs.isFile (fileIn earlier location).text = .ok false) ∧
          fs.isFile (fileIn root location).text ≠ .ok false := by
  induction roots with
  | nil => exact .inl nofun
  | cons root roots ih =>
    by_cases hroot : fs.isFile (fileIn root location).text = .ok false
    · rcases ih with hnone | ⟨front, first, behind, rfl, hfront, hfirst⟩
      · exact .inl (List.forall_mem_cons.2 ⟨hroot, hnone⟩)
      · exact .inr ⟨root :: front, first, behind, rfl, List.forall_mem_cons.2 ⟨hroot, hfront⟩, hfirst⟩
    · exact .inr ⟨[], root, roots, rfl, nofun, hroot⟩

/-- What opening comes to, and why. -/
theorem openFrom_cases (h : roots ≠ []) {outcome : Except Failure Bytes}
    (hopen : openFrom w codecs encoding location roots = outcome) :
    (∃ f, outcome = .error f ∧ f.isNotFound = true ∧
      ∀ root ∈ roots, w.files.isFile (fileIn root location).text = .ok false) ∨
      ∃ front root behind, roots = front ++ root :: behind ∧
        (∀ earlier ∈ front, w.files.isFile (fileIn earlier location).text = .ok false) ∧
          ((w.files.isFile (fileIn root location).text = .ok true ∧
              w.files.read (fileIn root location).text = outcome) ∨
            ∃ f, outcome = .error f ∧ w.files.isFile (fileIn root location).text = .error f) := by
  subst hopen
  rcases exists_first_file w.files location roots with hnone | ⟨front, root, behind, rfl, hfront, hroot⟩
  · obtain ⟨f, hopen, hf⟩ := openFrom_of_none encoding h hnone
    exact .inl ⟨f, hopen, hf, hnone⟩
  · refine .inr ⟨front, root, behind, rfl, hfront, ?_⟩
    cases hfile : w.files.isFile (fileIn root location).text with
    | error f => exact .inr ⟨f, openFrom_of_error hfront hfile, rfl⟩
    | ok isFile =>
      cases isFile with
      | false => exact absurd hfile hroot
      | true => exact .inl ⟨rfl, (openFrom_of_file hfront hfile).symm⟩

theorem openFrom_eq_ok_iff (h : roots ≠ []) {bytes : Bytes} :
    openFrom w codecs encoding location roots = .ok bytes ↔
      ∃ front root behind, roots = front ++ root :: behind ∧
        (∀ earlier ∈ front, w.files.isFile (fileIn earlier location).text = .ok false) ∧
          w.files.isFile (fileIn root location).text = .ok true ∧
            w.files.read (fileIn root location).text = .ok bytes := by
  constructor
  · intro hopen
    obtain ⟨_, ⟨⟩, -⟩ | ⟨front, root, behind, hroots, hfront, hfound | ⟨_, ⟨⟩, -⟩⟩ := openFrom_cases h hopen
    exact ⟨front, root, behind, hroots, hfront, hfound⟩
  · rintro ⟨front, root, behind, rfl, hfront, hfile, hread⟩
    rw [openFrom_of_file hfront hfile, hread]

theorem exists_openFrom_notFound_iff (h : roots ≠ []) :
    (∃ f, openFrom w codecs encoding location roots = .error f ∧ f.isNotFound = true) ↔
      ∀ root ∈ roots, w.files.isFile (fileIn root location).text = .ok false := by
  constructor
  · rintro ⟨f, hopen, hf⟩
    obtain ⟨_, ⟨⟩, -, hnone⟩ | ⟨front, root, behind, -, -, ⟨hfile, hread⟩ | ⟨_, ⟨⟩, hfile⟩⟩ :=
      openFrom_cases h hopen
    · exact hnone
    · obtain ⟨bytes, hbytes⟩ | ⟨g, hg, -, hnot⟩ := FileSystem.read_of_isFile hfile
      · rw [hbytes] at hread
        cases hread
      · rw [hg] at hread
        cases hread
        rw [hnot] at hf
        cases hf
    · rw [FileSystem.isNotFound_of_isFile hfile] at hf
      cases hf
  · exact openFrom_of_none encoding h

theorem of_openFrom_eq_error (h : roots ≠ []) {f : Failure}
    (hopen : openFrom w codecs encoding location roots = .error f) :
    f.isNotFound = true ∨ ∃ front root behind, roots = front ++ root :: behind ∧
      (∀ earlier ∈ front, w.files.isFile (fileIn earlier location).text = .ok false) ∧
        (w.files.isFile (fileIn root location).text = .error f ∨
          w.files.isFile (fileIn root location).text = .ok true ∧
            w.files.read (fileIn root location).text = .error f) := by
  obtain ⟨_, ⟨⟩, hf, -⟩ | ⟨front, root, behind, hroots, hfront, hfound | ⟨_, ⟨⟩, hfile⟩⟩ :=
    openFrom_cases h hopen
  · exact .inl hf
  · exact .inr ⟨front, root, behind, hroots, hfront, .inr hfound⟩
  · exact .inr ⟨front, root, behind, hroots, hfront, .inl hfile⟩

end

/-! ### The order of search -/

/-- Roots are searched in their order for the tables and the resource at a location. -/
structure SearchesInOrder (w : World σ) (codecs : Codecs) (encoding location : Text) (roots : List Text) :
    Prop where
  /-- A key has the value of its last definition in the first root that has one. -/
  value : ∀ table, loadFrom w codecs encoding location roots = .ok table → ∀ key value,
    get? key table = some value ↔ ∃ front root behind, roots = front ++ root :: behind ∧
      Defines w.files codecs encoding location root key value ∧
        ∀ earlier ∈ front, ∀ v, ¬ Defines w.files codecs encoding location earlier key v
  /-- The keys of a root stand where they first appear in it, behind those of the roots in front. -/
  keys : ∀ table, loadFrom w codecs encoding location roots = .ok table →
    ∃ lists, roots.mapM (definitionsIn w.files codecs encoding location) = .ok lists ∧
      table.map Prod.fst = newKeys [] (lists.flatten.map Prod.fst)
  /-- A table is loaded exactly if of every root it can be said what it defines. -/
  loads : (∃ table, loadFrom w codecs encoding location roots = .ok table) ↔
    ∀ root ∈ roots, ∃ entries, definitionsIn w.files codecs encoding location root = .ok entries
  /-- If any of the files does not decode, nothing is loaded. -/
  undecodable : ∀ root ∈ roots, ∀ bytes f, w.files.isFile (fileIn root location).text = .ok true →
    w.files.read (fileIn root location).text = .ok bytes → readText codecs encoding bytes = .error f →
      ∃ g, loadFrom w codecs encoding location roots = .error g
  /-- The table of further roots completes the table of the roots. -/
  append : ∀ more, more ≠ [] → loadFrom w codecs encoding location (roots ++ more) = do
    let table ← loadFrom w codecs encoding location roots
    let other ← loadFrom w codecs encoding location more
    return complete table other
  /-- A root that is listed again changes nothing. -/
  again : ∀ root ∈ roots, ∀ again behind, Path.ofText again = Path.ofText root →
    loadFrom w codecs encoding location (roots ++ again :: behind) =
      loadFrom w codecs encoding location (roots ++ behind)
  /-- A root without a file changes nothing, wherever it is put in. -/
  missing : ∀ front behind root, roots = front ++ behind →
    w.files.isFile (fileIn root location).text = .ok false →
      loadFrom w codecs encoding location (front ++ root :: behind) =
        loadFrom w codecs encoding location roots
  /-- A resource has the bytes of the first file. -/
  opens : ∀ bytes, openFrom w codecs encoding location roots = .ok bytes ↔
    ∃ front root behind, roots = front ++ root :: behind ∧
      (∀ earlier ∈ front, w.files.isFile (fileIn earlier location).text = .ok false) ∧
        w.files.isFile (fileIn root location).text = .ok true ∧
          w.files.read (fileIn root location).text = .ok bytes
  /-- A resource is not found exactly if no root has a file. -/
  notFound : (∃ f, openFrom w codecs encoding location roots = .error f ∧ f.isNotFound = true) ↔
    ∀ root ∈ roots, w.files.isFile (fileIn root location).text = .ok false
  /-- Opening fails else only at the first root that is not without a file: because it cannot be said
  whether it has one, or because the file cannot be read. -/
  refused : ∀ f, openFrom w codecs encoding location roots = .error f → f.isNotFound = true ∨
    ∃ front root behind, roots = front ++ root :: behind ∧
      (∀ earlier ∈ front, w.files.isFile (fileIn earlier location).text = .ok false) ∧
        (w.files.isFile (fileIn root location).text = .error f ∨
          w.files.isFile (fileIn root location).text = .ok true ∧
            w.files.read (fileIn root location).text = .error f)

/-- Whatever the files are, and whatever is known of the encodings, all roots that are given are searched in
their order. -/
theorem searchesInOrder (w : World σ) (codecs : Codecs) (encoding location : Text) {roots : List Text}
    (h : roots ≠ []) : SearchesInOrder w codecs encoding location roots where
  value _ hload := get?_of_loadFrom h hload
  keys table hload := by
    obtain ⟨lists, hlists, rfl⟩ := (loadFrom_eq_ok_iff h).1 hload
    exact ⟨lists, hlists, Association.keys_gather lists⟩
  loads := exists_loadFrom_iff h
  undecodable root hroot bytes f hfile hread htext := by
    cases hload : loadFrom w codecs encoding location roots with
    | error g => exact ⟨g, rfl⟩
    | ok table =>
      obtain ⟨entries, hentries⟩ := (exists_loadFrom_iff h).1 ⟨table, hload⟩ root hroot
      rw [definitionsIn_of_readText hfile hread htext] at hentries
      cases hentries
  append _ hmore := loadFrom_append h hmore
  again _ hroot _ behind hsame := loadFrom_again hroot hsame behind
  missing front behind root hroots hroot := by
    subst hroots
    exact loadFrom_missing h hroot
  opens _ := openFrom_eq_ok_iff h
  notFound := exists_openFrom_notFound_iff h
  refused _ := of_openFrom_eq_error h

/-- Two directories with a file of one name. The first file defines a key twice, the second one defines
it once more and another key. -/
def twoDirectories : FileSystem where
  cwd := []
  entries := [(["a"], .directory), (["a", "t"], .file 0), (["b"], .directory), (["b", "t"], .file 1)]
  contents := [Utf8.encode "k=1\nk=2".toList, Utf8.encode "l=3\nk=4".toList]

def gathered : Mappings := [("k", "2"), ("l", "3")]

theorem searchesInOrder_twoDirectories :
    ([("a" : Text), "b"] ≠ [] ∧
      loadFrom (.start twoDirectories ()) .plain "iso-8859-1" "/t" ["a", "b"] = .ok gathered) ∧
    ∃ front root behind, [("a" : Text), "b"] = front ++ root :: behind ∧
      Defines twoDirectories .plain "iso-8859-1" "/t" root "k" "2" ∧
        ∀ earlier ∈ front, ∀ v, ¬ Defines twoDirectories .plain "iso-8859-1" "/t" earlier "k" v := by
  have hroots : [("a" : Text), "b"] ≠ [] := by simp
  have hload : loadFrom (.start twoDirectories ()) .plain "iso-8859-1" "/t" ["a", "b"] = .ok gathered :=
    Outcome.eq_ok_of_toOption (by decide +kernel)
  have hsearch := searchesInOrder (.start twoDirectories ()) .plain "iso-8859-1" "/t" hroots
  exact ⟨⟨hroots, hload⟩, (hsearch.value _ hload "k" "2").1 (by decide)⟩

end DirectoryLoader

end SchemaGate
