import SchemaGate.Files.FileSystem
import SchemaGate.Proofs.Outcome

/-! What paths lead to, and what changes leave alone.

    What is a file is read unless an obstacle is in the way, and then it never looks as if it were not
    there (`read_of_isFile`). Changes only add entries and leave all obstacles, so what a path led to it
    leads to afterwards (`Later`). Making directories leaves every file as it was
    (`MadeDirectories.sameFiles`), and writing changes one file, the one to which the path leads
    (`Wrote`): what is written last is what counts (`write_write`), and it is what is read
    (`Wrote.read`). -/

namespace SchemaGate.FileSystem

/-! ### Paths -/

/-- An operation at a path fails because the system refuses it, or because there is no such path. -/
theorem isSystem_of_at? {α : Type} {fs : FileSystem} {path : Text}
    {operation : List Text → Except SystemError α} {f : Failure}
    (h : fs.at? path operation = .error f) : badPath? path = some f ∨ f.isSystem = true := by
  rw [at?] at h
  split at h
  · next bad hbad =>
    cases h
    exact .inl hbad
  · split at h
    · cases h
    · cases h
      exact .inr rfl

theorem badPath?_cases {path : Text} {f : Failure} (h : badPath? path = some f) :
    f = .unencodable ∨ f = .nullByte := by
  rw [badPath?] at h
  split at h
  · cases h
    exact .inl rfl
  · split at h
    · cases h
      exact .inr rfl
    · cases h

theorem isSystem_of_whether {result : Except Failure Bool} {f : Failure}
    (hresult : ∀ g, result = .error g → (g = .unencodable ∨ g = .nullByte) ∨ g.isSystem = true)
    (h : whether result = .error f) : f.isSystem = true := by
  cases result with
  | ok b => cases h
  | error g =>
    rcases hresult g rfl with (rfl | rfl) | hsystem
    · cases h
    · cases h
    · unfold whether at h
      split at h <;> cases h
      exact hsystem

theorem isSystem_of_isFile {fs : FileSystem} {path : Text} {f : Failure}
    (h : fs.isFile path = .error f) : f.isSystem = true := by
  refine isSystem_of_whether (fun g hg => ?_) h
  cases hs : fs.stat path with
  | ok e => rw [hs] at hg; cases hg
  | error g' =>
    rw [hs] at hg
    cases hg
    exact (isSystem_of_at? hs).imp_left badPath?_cases

/-- That nothing is there is never the reason why it cannot be said whether a path is a file. -/
theorem isNotFound_of_isFile {fs : FileSystem} {path : Text} {f : Failure}
    (h : fs.isFile path = .error f) : f.isNotFound = false := by
  unfold isFile whether at h
  split at h
  iterate 4 cases h
  next r hnotFound _ _ _ =>
    cases f with
    | system e message =>
      cases e with
      | notFound => exact absurd h (hnotFound message)
      | _ => rfl
    | _ => rfl

theorem exists_stat_of_isFile {fs : FileSystem} {path : Text} (h : fs.isFile path = .ok true) :
    ∃ number, fs.stat path = .ok (.file number) := by
  rw [isFile] at h
  cases hs : fs.stat path with
  | ok e =>
    rw [hs] at h
    cases e with
    | directory => cases h
    | file number => exact ⟨number, rfl⟩
  | error f =>
    rw [hs] at h
    unfold whether at h
    split at h <;> cases h

/-- An operation at a path is done at the place to which the path leads. -/
theorem at?_eq_ok_iff {α : Type} {fs : FileSystem} {path : Text}
    {operation : List Text → Except SystemError α} {a : α} :
    fs.at? path operation = .ok a ↔
      badPath? path = none ∧ ∃ place, fs.locate path = .ok place ∧ operation place = .ok a := by
  rw [at?]
  cases badPath? path with
  | some f => simp
  | none =>
    cases hplace : fs.locate path with
    | error e => simp [bind, Except.bind]
    | ok place => cases hdone : operation place <;> simp [bind, Except.bind, hdone]

theorem stat_eq_ok_iff {fs : FileSystem} {path : Text} {e : FileEntry} :
    fs.stat path = .ok e ↔
      badPath? path = none ∧ ∃ place, fs.locate path = .ok place ∧ fs.entry? place = some e := by
  rw [stat, at?_eq_ok_iff]
  refine and_congr_right fun _ => exists_congr fun place => and_congr_right fun _ => ?_
  cases fs.entry? place <;> simp

/-! ### Files -/

/-- The bytes of the file at a place. -/
def fileAt? (fs : FileSystem) (place : List Text) : Option Bytes :=
  match fs.entry? place with
  | some (.file number) => some (fs.content number)
  | _ => none

theorem fileAt?_eq_some_iff {fs : FileSystem} {place : List Text} {bytes : Bytes} :
    fs.fileAt? place = some bytes ↔
      ∃ number, fs.entry? place = some (.file number) ∧ fs.content number = bytes := by
  rw [fileAt?]
  rcases fs.entry? place with _ | _ | number <;> simp

/-- A file has its bytes. -/
theorem number_lt {fs : FileSystem} {place : List Text} {number : Nat}
    (h : fs.entry? place = some (.file number)) : number < fs.contents.length := by
  unfold entry? at h
  split at h
  · cases h
  · obtain ⟨e, hfind, he⟩ := Option.map_eq_some_iff.1 h
    exact fs.numbered e (List.mem_of_find?_eq_some hfind) number he

/-- Nothing stands in the way where there is nothing. -/
theorem obstacle?_of_entry?_eq_none {fs : FileSystem} {place : List Text} (h : fs.entry? place = none) :
    fs.obstacle? place = none := by
  rw [obstacle?, Option.map_eq_none_iff, List.find?_eq_none]
  intro o ho heq
  obtain rfl : o.1 = place := of_decide_eq_true heq
  unfold entry? at h
  rcases fs.grounded o ho with hroot | hentry
  · simp [hroot] at h
  · obtain ⟨e, he, hplace⟩ := List.mem_map.1 hentry
    split at h
    · cases h
    · exact List.find?_eq_none.1 (Option.map_eq_none_iff.1 h) e he (decide_eq_true hplace)

theorem mayChange_of_entry?_eq_none {fs : FileSystem} {place : List Text} (h : fs.entry? place = none) :
    fs.mayChange place = .ok () := by
  rw [mayChange, obstacle?_of_entry?_eq_none h]

/-- What may be changed may be read. -/
theorem mayRead_of_mayChange {fs : FileSystem} {place : List Text} (h : fs.mayChange place = .ok ()) :
    fs.mayRead place = .ok () := by
  rw [mayChange] at h
  rw [mayRead]
  cases ho : fs.obstacle? place with
  | none => rfl
  | some o =>
    rw [ho] at h
    cases h

/-- A file is opened if the path leads to it and it may be read. -/
theorem openFile_eq_ok_iff {fs : FileSystem} {path : Text} {number : Nat} :
    fs.openFile path = .ok number ↔
      badPath? path = none ∧ ∃ place, fs.locate path = .ok place ∧
        fs.entry? place = some (.file number) ∧ fs.mayRead place = .ok () := by
  rw [openFile, at?_eq_ok_iff]
  refine and_congr_right fun _ => exists_congr fun place => and_congr_right fun _ => ?_
  rcases fs.entry? place with _ | _ | number'
  · simp
  · simp
  · cases fs.mayRead place <;> simp [Functor.map, Except.map]

theorem read_eq_ok_iff {fs : FileSystem} {path : Text} {bytes : Bytes} :
    fs.read path = .ok bytes ↔
      badPath? path = none ∧ ∃ place, fs.locate path = .ok place ∧
        fs.fileAt? place = some bytes ∧ fs.mayRead place = .ok () := by
  rw [read, Outcome.map_eq_ok]
  simp only [openFile_eq_ok_iff, fileAt?_eq_some_iff]
  constructor
  · rintro ⟨number, ⟨hpath, place, hplace, hentry, hmay⟩, hbytes⟩
    exact ⟨hpath, place, hplace, ⟨number, hentry, hbytes⟩, hmay⟩
  · rintro ⟨hpath, place, hplace, ⟨number, hentry, hbytes⟩, hmay⟩
    exact ⟨number, ⟨hpath, place, hplace, hentry, hmay⟩, hbytes⟩

/-- Nothing looks as if it were not there because of an obstacle. -/
theorem isNotFound_of_mayRead {fs : FileSystem} {place : List Text} {e : SystemError}
    (h : fs.mayRead place = .error e) (path : Text) : (Failure.ofSystem e path).isNotFound = false := by
  rw [mayRead] at h
  cases ho : fs.obstacle? place with
  | none =>
    rw [ho] at h
    cases h
  | some o =>
    rw [ho] at h
    cases o <;> cases h <;> rfl

/-- What is a file is read, or the system refuses to. -/
theorem read_of_isFile {fs : FileSystem} {path : Text} (h : fs.isFile path = .ok true) :
    (∃ bytes, fs.read path = .ok bytes) ∨
      ∃ f, fs.read path = .error f ∧ f.isSystem = true ∧ f.isNotFound = false := by
  obtain ⟨number, hstat⟩ := exists_stat_of_isFile h
  obtain ⟨hpath, place, hplace, hentry⟩ := stat_eq_ok_iff.1 hstat
  cases hmay : fs.mayRead place with
  | ok =>
    have hbytes := fileAt?_eq_some_iff.2 ⟨number, hentry, rfl⟩
    exact .inl ⟨_, read_eq_ok_iff.2 ⟨hpath, place, hplace, hbytes, hmay⟩⟩
  | error e =>
    have hopen : fs.openFile path = .error (.ofSystem e path) := by
      rw [openFile, at?, hpath, hplace]
      simp [bind, Except.bind, hentry, hmay]
    exact .inr ⟨.ofSystem e path, by rw [read, hopen]; rfl, rfl, isNotFound_of_mayRead hmay path⟩

/-- What can be read is there. -/
theorem pathExists_of_read {fs : FileSystem} {path : Text} {bytes : Bytes}
    (h : fs.read path = .ok bytes) : fs.pathExists path = .ok true := by
  obtain ⟨hpath, place, hplace, hfile, -⟩ := read_eq_ok_iff.1 h
  obtain ⟨number, hentry, -⟩ := fileAt?_eq_some_iff.1 hfile
  rw [pathExists, stat_eq_ok_iff.2 ⟨hpath, place, hplace, hentry⟩]
  rfl

/-- A file system in which all is still there that was there before, behind the same obstacles. -/
structure Later (fs fs' : FileSystem) : Prop where
  cwd : fs'.cwd = fs.cwd
  entry : ∀ place e, fs.entry? place = some e → fs'.entry? place = some e
  obstacles : fs'.obstacles = fs.obstacles

theorem Later.refl (fs : FileSystem) : fs.Later fs := ⟨rfl, fun _ _ => id, rfl⟩

theorem Later.trans {fs fs' fs'' : FileSystem} (h : fs.Later fs') (h' : fs'.Later fs'') : fs.Later fs'' :=
  ⟨h'.cwd.trans h.cwd, fun place e he => h'.entry place e (h.entry place e he),
    h'.obstacles.trans h.obstacles⟩

section

variable {fs fs' : FileSystem} (h : fs.Later fs')
include h

theorem Later.mayRead (place : List Text) : fs'.mayRead place = fs.mayRead place := by
  rw [FileSystem.mayRead, obstacle?, h.obstacles]
  rfl

theorem Later.mayChange (place : List Text) : fs'.mayChange place = fs.mayChange place := by
  rw [FileSystem.mayChange, obstacle?, h.obstacles]
  rfl

theorem Later.step {place place' : List Text} {name : Text} (hstep : fs.step place name = .ok place') :
    fs'.step place name = .ok place' := by
  rw [FileSystem.step] at hstep ⊢
  cases he : fs.entry? place with
  | none =>
    rw [he] at hstep
    cases hstep
  | some e =>
    rw [he] at hstep
    rw [h.entry place e he, h.mayRead]
    exact hstep

theorem Later.walk {place place' : List Text} {names : List Text} (hwalk : fs.walk place names = .ok place') :
    fs'.walk place names = .ok place' := by
  induction names generalizing place with
  | nil => exact hwalk
  | cons name names ih =>
    rw [FileSystem.walk] at hwalk ⊢
    cases hstep : fs.step place name with
    | error e =>
      rw [hstep] at hwalk
      cases hwalk
    | ok next =>
      rw [hstep] at hwalk
      rw [h.step hstep]
      exact ih hwalk

/-- A path leads where it led. -/
theorem Later.locate {path : Text} {place : List Text} (hplace : fs.locate path = .ok place) :
    fs'.locate path = .ok place := by
  simp only [FileSystem.locate, h.cwd] at hplace ⊢
  split at hplace
  · cases hplace
  · next hne =>
    split at hplace
    · cases hplace
    · next hshort =>
      rw [if_neg hne, if_neg hshort]
      exact h.walk hplace

end

/-! ### Unchanged files -/

/-- Every file is where it was with the bytes that it had, and there are no others. -/
def SameFiles (fs fs' : FileSystem) : Prop := ∀ place, fs'.fileAt? place = fs.fileAt? place

/-! ### Single changes -/

theorem content_withBytes {fs : FileSystem} {number : Nat} (hlt : number < fs.contents.length)
    (bytes : Bytes) (m : Nat) :
    (fs.withBytes number bytes).content m = if m = number then bytes else fs.content m := by
  rw [content, content, withBytes, List.getElem?_set]
  by_cases hm : m = number
  · subst hm
    simp [hlt]
  · simp [hm, Ne.symm hm]

/-- An entry behind the others is found where no other is. -/
theorem find?_append_singleton (entries : List (List Text × FileEntry)) (e : List Text × FileEntry)
    (place : List Text) :
    ((entries ++ [e]).find? fun x => x.1 = place).map (·.2) =
      ((entries.find? fun x => x.1 = place).map (·.2)).or (if e.1 = place then some e.2 else none) := by
  rw [List.find?_append, Option.map_or]
  by_cases he : e.1 = place <;> simp [he]

theorem entry?_withFile (fs : FileSystem) (place : List Text) (bytes : Bytes) (q : List Text) :
    FileSystem.entry? (fs.withFile place bytes) q =
      (fs.entry? q).or (if place = q then some (.file fs.contents.length) else none) := by
  unfold entry?
  rw [withFile, find?_append_singleton]
  split <;> simp

theorem content_withFile (fs : FileSystem) (place : List Text) (bytes : Bytes) (m : Nat) :
    (fs.withFile place bytes).content m = if m = fs.contents.length then bytes else fs.content m := by
  rw [content, content, withFile]
  by_cases hm : m = fs.contents.length
  · simp [hm]
  · rw [if_neg hm]
    congr 1
    rcases Nat.lt_or_gt_of_ne hm with hlt | hgt
    · exact List.getElem?_append_left hlt
    · rw [List.getElem?_eq_none (by rw [List.length_append, List.length_singleton]; omega),
        List.getElem?_eq_none (by omega)]

theorem entry?_withDirectory (fs : FileSystem) (place q : List Text) :
    FileSystem.entry? (fs.withDirectory place) q =
      (fs.entry? q).or (if place = q then some .directory else none) := by
  unfold entry?
  rw [withDirectory, find?_append_singleton]
  split <;> simp

/-! ### Directories -/

/-- What is made are directories only: all that was there is there, and no file is changed. -/
structure MadeDirectories (fs fs' : FileSystem) : Prop where
  later : fs.Later fs'
  noFile : ∀ place number, fs'.entry? place = some (.file number) → fs.entry? place = some (.file number)
  content : ∀ number, fs'.content number = fs.content number

theorem MadeDirectories.refl (fs : FileSystem) : fs.MadeDirectories fs :=
  ⟨.refl fs, fun _ _ => id, fun _ => rfl⟩

theorem MadeDirectories.trans {fs fs' fs'' : FileSystem} (h : fs.MadeDirectories fs')
    (h' : fs'.MadeDirectories fs'') : fs.MadeDirectories fs'' :=
  ⟨h.later.trans h'.later, fun place number he => h.noFile place number (h'.noFile place number he),
    fun number => (h'.content number).trans (h.content number)⟩

theorem MadeDirectories.entry?_iff {fs fs' : FileSystem} (h : fs.MadeDirectories fs') {place : List Text}
    {number : Nat} : fs'.entry? place = some (.file number) ↔ fs.entry? place = some (.file number) :=
  ⟨h.noFile place number, h.later.entry place _⟩

theorem MadeDirectories.sameFiles {fs fs' : FileSystem} (h : fs.MadeDirectories fs') :
    fs.SameFiles fs' := by
  intro place
  apply Option.ext
  intro bytes
  simp only [fileAt?_eq_some_iff, h.entry?_iff, h.content]

theorem madeDirectories_withDirectory (fs : FileSystem) (place : List Text) :
    fs.MadeDirectories (fs.withDirectory place) := by
  refine ⟨⟨rfl, fun q e he => ?_, rfl⟩, fun q number he => ?_, fun _ => rfl⟩
  · rw [entry?_withDirectory, he, Option.some_or]
  · rw [entry?_withDirectory] at he
    cases hq : fs.entry? q with
    | none =>
      rw [hq, Option.none_or] at he
      split at he <;> cases he
    | some e => rwa [hq] at he

theorem madeDirectories_ensureDirectory {fs fs' : FileSystem} {path : Text}
    (h : fs.ensureDirectory path = .ok fs') : fs.MadeDirectories fs' := by
  unfold ensureDirectory at h
  split at h
  · next fault message _ =>
    split at h
    · split at h
      · cases h
      · cases h
        exact .refl fs
    · cases h
    · cases h
  · next hmake =>
    obtain ⟨-, place, -, hdone⟩ := at?_eq_ok_iff.1 h
    split at hdone
    · cases hdone
    · obtain ⟨_, -, hdone⟩ := Outcome.bind_eq_ok.1 hdone
      cases hdone
      exact madeDirectories_withDirectory fs place

theorem madeDirectories_attempt {fs : FileSystem} {path : Text} :
    fs.MadeDirectories (fs.attempt (fs.ensureDirectory path)).2 := by
  cases h : fs.ensureDirectory path with
  | ok fs' => exact madeDirectories_ensureDirectory h
  | error f => exact .refl fs

/-- Whether or not all the directories can be made, no file is changed. -/
theorem madeDirectories_ensureTree (fs : FileSystem) (root : Text) (names : List Text) :
    fs.MadeDirectories (fs.ensureTree root names).2 := by
  induction names with
  | nil => exact madeDirectories_attempt
  | cons name above ih =>
    rw [ensureTree]
    split
    · split
      · next fs' hfs' =>
        rw [hfs'] at ih
        exact ih.trans madeDirectories_attempt
      · exact ih
    · exact madeDirectories_attempt

theorem madeDirectories_makeTree (fs : FileSystem) (p : Path) : fs.MadeDirectories (fs.makeTree p).2 :=
  madeDirectories_ensureTree fs p.root p.names.reverse

/-! ### Writing -/

/-- A path leads to a file, which was there or is new; this file alone has other bytes. -/
structure Wrote (fs fs' : FileSystem) (path : Text) (bytes : Bytes) (place : List Text) (number : Nat) :
    Prop where
  legal : badPath? path = none
  later : fs.Later fs'
  located : fs'.locate path = .ok place
  readable : fs'.mayRead place = .ok ()
  origin : fs.entry? place = some (.file number) ∨
    fs.entry? place = none ∧ ∀ q, fs.entry? q ≠ some (.file number)
  entry : ∀ q, fs'.entry? q = if q = place then some (.file number) else fs.entry? q
  content : ∀ m, fs'.content m = if m = number then bytes else fs.content m

/-- Writing a file ends well if the path leads to a file, or to none where one can be. -/
theorem write_eq_ok_iff {fs fs' : FileSystem} {path : Text} {bytes : Bytes} :
    fs.write path bytes = .ok fs' ↔
      badPath? path = none ∧ ∃ place, fs.locate path = .ok place ∧
        ((∃ number, fs.entry? place = some (.file number) ∧ fs.mayChange place = .ok () ∧
            fs' = fs.withBytes number bytes) ∨
          (fs.entry? place = none ∧ fs.parentTakes place = .ok () ∧ fs' = fs.withFile place bytes)) := by
  rw [write, at?_eq_ok_iff]
  refine and_congr_right fun _ => exists_congr fun place => and_congr_right fun _ => ?_
  rcases fs.entry? place with _ | _ | number
  · cases fs.parentTakes place <;> simp [Functor.map, Except.map, eq_comm]
  · simp
  · cases fs.mayChange place <;> simp [Functor.map, Except.map, eq_comm]

theorem later_withBytes (fs : FileSystem) (number : Nat) (bytes : Bytes) :
    fs.Later (fs.withBytes number bytes) := ⟨rfl, fun _ _ => id, rfl⟩

theorem later_withFile (fs : FileSystem) (place : List Text) (bytes : Bytes) :
    fs.Later (fs.withFile place bytes) :=
  ⟨rfl, fun q e he => by rw [entry?_withFile, he, Option.some_or], rfl⟩

theorem exists_wrote {fs fs' : FileSystem} {path : Text} {bytes : Bytes} (h : fs.write path bytes = .ok fs') :
    ∃ place number, fs.Wrote fs' path bytes place number := by
  obtain ⟨hlegal, place, hplace, ⟨number, hentry, hmay, rfl⟩ | ⟨hentry, -, rfl⟩⟩ := write_eq_ok_iff.1 h
  · have hlater := fs.later_withBytes number bytes
    have hread := (hlater.mayRead place).trans (mayRead_of_mayChange hmay)
    refine ⟨place, number, hlegal, hlater, hlater.locate hplace, hread, .inl hentry, fun q => ?_,
      content_withBytes (number_lt hentry) bytes⟩
    change fs.entry? q = _
    split
    · next hq => rw [hq, hentry]
    · rfl
  · have hlater := fs.later_withFile place bytes
    have hread := (hlater.mayRead place).trans (mayRead_of_mayChange (mayChange_of_entry?_eq_none hentry))
    have hnew : ∀ q, fs.entry? q ≠ some (.file fs.contents.length) := fun q hq =>
      absurd (number_lt hq) (Nat.lt_irrefl _)
    refine ⟨place, fs.contents.length, hlegal, hlater, hlater.locate hplace, hread, .inr ⟨hentry, hnew⟩,
      fun q => ?_, content_withFile fs place bytes⟩
    rw [entry?_withFile]
    by_cases hq : q = place
    · rw [hq, hentry, if_pos rfl, Option.none_or]
    · rw [if_neg hq, if_neg (Ne.symm hq), Option.or_none]

/-- Whether a file can be written does not depend on what is written. -/
theorem exists_write {fs fs' : FileSystem} {path : Text} {bytes : Bytes} (h : fs.write path bytes = .ok fs')
    (other : Bytes) : ∃ fs'', fs.write path other = .ok fs'' := by
  obtain ⟨hlegal, place, hplace, ⟨number, hentry, hmay, -⟩ | ⟨hentry, hparent, -⟩⟩ := write_eq_ok_iff.1 h
  · exact ⟨_, write_eq_ok_iff.2 ⟨hlegal, place, hplace, .inl ⟨number, hentry, hmay, rfl⟩⟩⟩
  · exact ⟨_, write_eq_ok_iff.2 ⟨hlegal, place, hplace, .inr ⟨hentry, hparent, rfl⟩⟩⟩

theorem withBytes_withBytes (fs : FileSystem) (number : Nat) (bytes last : Bytes) :
    (fs.withBytes number bytes).withBytes number last = fs.withBytes number last := by
  simp [withBytes]

theorem withBytes_withFile (fs : FileSystem) (place : List Text) (bytes last : Bytes) :
    (fs.withFile place bytes).withBytes fs.contents.length last = fs.withFile place last := by
  simp [withBytes, withFile]

/-- What is written last is what counts. -/
theorem write_write {fs fs' : FileSystem} {path : Text} {bytes : Bytes} (h : fs.write path bytes = .ok fs')
    (last : Bytes) : fs'.write path last = fs.write path last := by
  obtain ⟨hlegal, place, hplace, ⟨number, hentry, hmay, rfl⟩ | ⟨hentry, hparent, rfl⟩⟩ :=
    write_eq_ok_iff.1 h
  · have hlater := fs.later_withBytes number bytes
    have hlast : fs.write path last = .ok (fs.withBytes number last) :=
      write_eq_ok_iff.2 ⟨hlegal, place, hplace, .inl ⟨number, hentry, hmay, rfl⟩⟩
    rw [hlast, ← fs.withBytes_withBytes number bytes last]
    exact write_eq_ok_iff.2 ⟨hlegal, place, hlater.locate hplace,
      .inl ⟨number, hentry, (hlater.mayChange place).trans hmay, rfl⟩⟩
  · have hlast : fs.write path last = .ok (fs.withFile place last) :=
      write_eq_ok_iff.2 ⟨hlegal, place, hplace, .inr ⟨hentry, hparent, rfl⟩⟩
    have hfile : FileSystem.entry? (fs.withFile place bytes) place = some (.file fs.contents.length) := by
      rw [entry?_withFile, hentry, if_pos rfl, Option.none_or]
    have hlater := fs.later_withFile place bytes
    have hmay := (hlater.mayChange place).trans (mayChange_of_entry?_eq_none hentry)
    rw [hlast, ← fs.withBytes_withFile place bytes last]
    exact write_eq_ok_iff.2 ⟨hlegal, place, hlater.locate hplace, .inl ⟨_, hfile, hmay, rfl⟩⟩

/-- What was written is read. -/
theorem Wrote.read {fs fs' : FileSystem} {path : Text} {bytes : Bytes} {place : List Text} {number : Nat}
    (h : fs.Wrote fs' path bytes place number) : fs'.read path = .ok bytes := by
  have hfile : fs'.fileAt? place = some bytes :=
    fileAt?_eq_some_iff.2 ⟨number, by rw [h.entry, if_pos rfl], by rw [h.content, if_pos rfl]⟩
  exact read_eq_ok_iff.2 ⟨h.legal, place, h.located, hfile, h.readable⟩

/-- The places of one file. -/
def Linked (fs : FileSystem) (place place' : List Text) : Prop :=
  ∃ number, fs.entry? place = some (.file number) ∧ fs.entry? place' = some (.file number)

/-- The file at a place is there with the given bytes, at every place that it has; all others are as
they were. -/
def Rewritten (fs fs' : FileSystem) (place : List Text) (bytes : Bytes) : Prop :=
  ∀ q, (q = place ∨ fs.Linked q place → fs'.fileAt? q = some bytes) ∧
    (¬(q = place ∨ fs.Linked q place) → fs'.fileAt? q = fs.fileAt? q)

/-- Directories are made, and then a file is written. -/
theorem Wrote.rewritten {fs fs₁ fs₂ : FileSystem} {path : Text} {bytes : Bytes} {place : List Text}
    {number : Nat} (h : fs₁.Wrote fs₂ path bytes place number) (hmade : fs.MadeDirectories fs₁) :
    fs.Rewritten fs₂ place bytes := by
  -- a place is one of the file's if it is the one written at or had the file's number before
  have hfile : ∀ q, fs₂.entry? q = some (.file number) ↔ q = place ∨ fs.Linked q place := by
    intro q
    rw [h.entry]
    by_cases hq : q = place
    · simp [hq]
    · rw [if_neg hq, or_iff_right hq, hmade.entry?_iff]
      refine ⟨fun hentry => ?_, ?_⟩
      · rcases h.origin with hplace | ⟨-, hnew⟩
        · exact ⟨number, hentry, hmade.entry?_iff.1 hplace⟩
        · exact absurd (hmade.entry?_iff.2 hentry) (hnew q)
      · rintro ⟨m, hentry, hplace⟩
        rcases h.origin with horigin | ⟨horigin, -⟩
        · rw [hmade.entry?_iff.1 horigin] at hplace
          cases hplace
          exact hentry
        · rw [hmade.entry?_iff.2 hplace] at horigin
          cases horigin
  refine fun q => ⟨fun hq => ?_, fun hq => ?_⟩
  · exact fileAt?_eq_some_iff.2 ⟨number, (hfile q).2 hq, by rw [h.content, if_pos rfl]⟩
  · have hne : q ≠ place := fun heq => hq (.inl heq)
    rw [← hmade.sameFiles q]
    apply Option.ext
    intro b
    simp only [fileAt?_eq_some_iff]
    refine exists_congr fun m => ?_
    have hm : fs₂.entry? q = some (.file m) → m ≠ number := fun hentry heq =>
      hq ((hfile q).1 (heq ▸ hentry))
    rw [h.content]
    constructor
    · rintro ⟨hentry, hb⟩
      rw [if_neg (hm hentry)] at hb
      exact ⟨by rwa [h.entry, if_neg hne] at hentry, hb⟩
    · rintro ⟨hentry, hb⟩
      have hentry : fs₂.entry? q = some (.file m) := by rwa [h.entry, if_neg hne]
      exact ⟨hentry, by rwa [if_neg (hm hentry)]⟩

/-- Writing a file changes nothing only if it held these bytes. -/
theorem Rewritten.sameFiles_iff {fs fs' : FileSystem} {place : List Text} {bytes : Bytes}
    (h : fs.Rewritten fs' place bytes) : fs.SameFiles fs' ↔ fs.fileAt? place = some bytes := by
  constructor
  · intro hsame
    rw [← hsame place]
    exact (h place).1 (.inl rfl)
  · intro hplace q
    by_cases hq : q = place ∨ fs.Linked q place
    · rw [(h q).1 hq]
      rcases hq with rfl | ⟨number, hentry, hentry'⟩
      · exact hplace.symm
      · obtain ⟨number', hentry'', hbytes⟩ := fileAt?_eq_some_iff.1 hplace
        rw [hentry'] at hentry''
        cases hentry''
        exact (fileAt?_eq_some_iff.2 ⟨number, hentry, hbytes⟩).symm
    · exact (h q).2 hq

end SchemaGate.FileSystem
