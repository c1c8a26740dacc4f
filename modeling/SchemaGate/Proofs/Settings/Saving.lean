import SchemaGate.Proofs.Files.FileSystem
import SchemaGate.Proofs.Json.Front
import SchemaGate.Proofs.Run
import SchemaGate.Settings.File

/-! What is left when settings cannot be saved.

    Saving makes the directories above the file, opens the file, which empties it, and writes. If the
    file cannot be opened, no file is changed. Once it is open, it depends on the settings and on the
    suffix of its name alone whether writing stops and what is written until then (`Stops`); this is
    what the file holds afterwards, whatever it held before (`changes_only_an_opened_file`). -/

namespace SchemaGate.Settings

variable {σ : Type} {y : Formats} {s : Settings} {p : Path}

/-- The file can be opened for writing: the directories above it are there or can be made, and its
path leads to a file or to where one can be. -/
def Opens (fs : FileSystem) (p : Path) : Prop :=
  ∃ fs₁ fs₂, fs.makeTree p.parent = (.ok (), fs₁) ∧ fs₁.write p.text [] = .ok fs₂

/-! ### Writing -/

/-- What is written into an open file, and how writing ends. -/
def writing (formats : Formats) (s : Settings) (p : Path) : Text × Except Failure Unit :=
  match formatOf formats (suffixOf p) with
  | .error f => ([], .error f)
  | .ok format => printFormat format s.toValue

/-- Writing settings stops with a failure once a text is written. -/
inductive Stops (formats : Formats) (s : Settings) (p : Path) : Failure → Text → Prop
  | unsupported (h : suffixOf p ≠ ".yaml" ∧ suffixOf p ≠ ".yml" ∧ suffixOf p ≠ ".json") :
    Stops formats s p (.unsupportedFormat (suffixOf p)) []
  | yamlMissing (h : suffixOf p = ".yaml" ∨ suffixOf p = ".yml") (hmissing : formats.yaml = none) :
    Stops formats s p .yamlMissing []
  | yamlRefused {library : YamlLibrary} {f : Failure} (h : suffixOf p = ".yaml" ∨ suffixOf p = ".yml")
    (hthere : formats.yaml = some library) (hprint : library.print s.toValue = .error f) :
    Stops formats s p f []
  | jsonNumber {written : Text} (h : suffixOf p = ".json")
    (hfront : Json.frontAt 0 s.toValue = some written) : Stops formats s p longNumberFailure written

theorem writing_of_yaml (h : suffixOf p = ".yaml" ∨ suffixOf p = ".yml") :
    writing y s p = match y.yaml with
      | some library => printFormat (.yaml library) s.toValue
      | none => ([], .error .yamlMissing) := by
  rw [writing, formatOf, if_pos h]
  cases y.yaml <;> rfl

theorem writing_of_json (h : suffixOf p = ".json") :
    writing y s p = printFormat (.json y.nesting) s.toValue := by
  rw [writing, formatOf, h]
  rfl

theorem writing_of_unsupported (h : suffixOf p ≠ ".yaml" ∧ suffixOf p ≠ ".yml" ∧ suffixOf p ≠ ".json") :
    writing y s p = ([], .error (.unsupportedFormat (suffixOf p))) := by
  rw [writing, formatOf, if_neg (not_or.2 ⟨h.1, h.2.1⟩), if_neg h.2.2]

theorem stops_iff {f : Failure} {t : Text} : Stops y s p f t ↔ writing y s p = (t, .error f) := by
  constructor
  · rintro (h | ⟨h, hmissing⟩ | ⟨h, hthere, hprint⟩ | ⟨h, hfront⟩)
    · exact writing_of_unsupported h
    · rw [writing_of_yaml h, hmissing]
    · simp only [writing_of_yaml h, hthere, printFormat, hprint]
    · simp only [writing_of_json h, printFormat, hfront]
  · intro hwriting
    by_cases hyaml : suffixOf p = ".yaml" ∨ suffixOf p = ".yml"
    · rw [writing_of_yaml hyaml] at hwriting
      cases hy : y.yaml with
      | none =>
        rw [hy] at hwriting
        cases hwriting
        exact .yamlMissing hyaml hy
      | some library =>
        simp only [hy, printFormat] at hwriting
        split at hwriting
        · cases hwriting
        · next hprint =>
          cases hwriting
          exact .yamlRefused hyaml hy hprint
    · by_cases hjson : suffixOf p = ".json"
      · rw [writing_of_json hjson, printFormat] at hwriting
        split at hwriting
        · next front hfront =>
          cases hwriting
          exact .jsonNumber hjson hfront
        · cases hwriting
      · rw [not_or] at hyaml
        have hunknown := (⟨hyaml.1, hyaml.2, hjson⟩ : _ ∧ _ ∧ _)
        rw [writing_of_unsupported hunknown] at hwriting
        cases hwriting
        exact .unsupported hunknown

/-- What is written until then begins the text of the settings in JSON. -/
theorem Stops.isPrefix {f : Failure} {t : Text} (h : Stops y s p f t) :
    t <+: Json.printIndented s.toValue := by
  cases h with
  | unsupported | yamlMissing | yamlRefused => exact List.nil_prefix
  | jsonNumber _ hfront => exact Json.frontAt_isPrefix hfront

/-! ### Saving -/

/-- The record of settings that were saved. -/
def saved (p : Path) : Event := .logged ⟨.info, .settings, "Saved configuration to " ++ p.text⟩

/-- Once the file is open, saving ends as writing does. -/
theorem runIn_save_of_write {w : World σ} {fs₁ fs₂ : FileSystem}
    (hmake : w.files.makeTree p.parent = (.ok (), fs₁))
    (hwrite : fs₁.write p.text (bytesOf (writing y s p).1) = .ok fs₂) :
    Run.runIn (save y s p) w =
      match (writing y s p).2 with
      | .error f => (.error f, { w with files := fs₂ })
      | .ok () => (.ok (), World.told { w with files := fs₂ } (saved p)) := by
  obtain ⟨fs, hempty⟩ := FileSystem.exists_write hwrite []
  simp only [save, Run.runIn_bind, Run.runIn_attemptFiles, Run.runIn_changeFiles, Run.runIn_ofExcept,
    hmake, hempty]
  rw [writing] at hwrite ⊢
  cases hformat : formatOf y (suffixOf p) with
  | error f =>
    simp only [hformat] at hwrite
    obtain rfl : fs = fs₂ := Except.ok.inj (hempty.symm.trans hwrite)
    rfl
  | ok format =>
    simp only [hformat] at hwrite
    rw [← FileSystem.write_write hempty] at hwrite
    dsimp only
    rw [hwrite]
    cases (printFormat format s.toValue).2 <;> rfl

theorem runIn_save_of_not_opens {w : World σ} (h : ¬ Opens w.files p) :
    ∃ f, Run.runIn (save y s p) w = (.error f, { w with files := (w.files.makeTree p.parent).2 }) := by
  simp only [save, Run.runIn_bind, Run.runIn_attemptFiles, Run.runIn_changeFiles]
  rcases hmake : w.files.makeTree p.parent with ⟨f | ⟨⟩, fs₁⟩
  · exact ⟨f, rfl⟩
  · cases hwrite : fs₁.write p.text [] with
    | error f => exact ⟨f, by simp only [hwrite]⟩
    | ok fs₂ => exact absurd ⟨fs₁, fs₂, hmake, hwrite⟩ h

/-- Saving fails if the file cannot be opened, or if writing stops, and not otherwise. In the first case
no file is changed. In the second the file is left with what was written until then, nothing or a front
part of the settings in JSON, whether or not it was there before: so this failure changes no file only
if the file happened to hold just that. -/
theorem changes_only_an_opened_file (y : Formats) (s : Settings) (p : Path) (w : World σ) :
    ((∃ f w', Run.runIn (save y s p) w = (.error f, w')) ↔
      ¬ Opens w.files p ∨ ∃ f t, Stops y s p f t) ∧
    ∀ f w', Run.runIn (save y s p) w = (.error f, w') →
      (¬ Opens w.files p ∧ w.files.SameFiles w'.files) ∨
      (Opens w.files p ∧ ∃ t, Stops y s p f t ∧ t <+: Json.printIndented s.toValue ∧
        ∃ place, w'.files.locate p.text = .ok place ∧ w.files.Rewritten w'.files place (bytesOf t) ∧
          (w.files.SameFiles w'.files ↔ w.files.fileAt? place = some (bytesOf t))) := by
  have hmade := w.files.madeDirectories_makeTree p.parent
  by_cases hopens : Opens w.files p
  · obtain ⟨fs₁, fs, hmake, hempty⟩ := hopens
    obtain ⟨fs₂, hwrite⟩ := FileSystem.exists_write hempty (bytesOf (writing y s p).1)
    rw [hmake] at hmade
    rw [runIn_save_of_write hmake hwrite]
    rcases hwriting : writing y s p with ⟨t, f | ⟨⟩⟩
    · have hstops : Stops y s p f t := stops_iff.2 hwriting
      rw [hwriting] at hwrite
      obtain ⟨place, number, hwrote⟩ := FileSystem.exists_wrote hwrite
      have hrewritten := hwrote.rewritten hmade
      refine ⟨iff_of_true ⟨f, _, rfl⟩ (.inr ⟨f, t, hstops⟩), fun f' w' h => ?_⟩
      cases h
      exact .inr ⟨⟨fs₁, fs, hmake, hempty⟩, t, hstops, hstops.isPrefix, place, hwrote.located, hrewritten,
        hrewritten.sameFiles_iff⟩
    · refine ⟨iff_of_false ?_ ?_, fun f' w' h => ?_⟩
      · rintro ⟨f, w', h⟩
        cases h
      · rintro (hnot | ⟨f, t', hstops⟩)
        · exact hnot ⟨fs₁, fs, hmake, hempty⟩
        · rw [stops_iff.1 hstops] at hwriting
          cases hwriting
      · cases h
  · obtain ⟨f, hrun⟩ := runIn_save_of_not_opens (y := y) (s := s) hopens
    rw [hrun]
    refine ⟨iff_of_true ⟨f, _, rfl⟩ (.inl hopens), fun f' w' h => ?_⟩
    cases h
    exact .inl ⟨hopens, hmade.sameFiles⟩

/-- JSON as the only format, without bounds. -/
def onlyJson : Formats := ⟨none, none⟩

/-- One file, `a.ini`, with one letter. -/
def oneLetter : FileSystem where
  cwd := []
  entries := [(["a.ini"], .file 0)]
  contents := [[0x78]]

theorem runIn_save_oneLetter :
    ∃ w', Run.runIn (save onlyJson usual (Path.ofText "a.ini")) (World.start oneLetter ()) =
      (.error (.unsupportedFormat ".ini"), w') := ⟨_, rfl⟩

theorem changes_only_an_opened_file_oneLetter :
    ∃ w' t place, Run.runIn (save onlyJson usual (Path.ofText "a.ini")) (World.start oneLetter ()) =
        (.error (.unsupportedFormat ".ini"), w') ∧
      Opens oneLetter (Path.ofText "a.ini") ∧
      Stops onlyJson usual (Path.ofText "a.ini") (.unsupportedFormat ".ini") t ∧
      w'.files.locate "a.ini" = .ok place ∧ oneLetter.Rewritten w'.files place (bytesOf t) ∧
      (oneLetter.SameFiles w'.files ↔ oneLetter.fileAt? place = some (bytesOf t)) := by
  obtain ⟨w', hrun⟩ := runIn_save_oneLetter
  have hopens : Opens oneLetter (Path.ofText "a.ini") := ⟨_, _, rfl, rfl⟩
  rcases (changes_only_an_opened_file onlyJson usual (Path.ofText "a.ini") (World.start oneLetter ())).2 _ _
    hrun with ⟨hnot, -⟩ | ⟨-, t, hstops, -, place, hplace, hrewritten, hsame⟩
  · exact absurd hopens hnot
  · exact ⟨w', t, place, hrun, hopens, hstops, hplace, hrewritten, hsame⟩

/-- A name without a format is refused only once the file is empty. -/
theorem refused_save_empties_file :
    let ending := Run.runIn (save onlyJson usual (Path.ofText "a.ini")) (World.start oneLetter ())
    ending.1 = .error (.unsupportedFormat ".ini") ∧ oneLetter.fileAt? ["a.ini"] = some [0x78] ∧
      ending.2.files.fileAt? ["a.ini"] = some [] ∧ ¬ oneLetter.SameFiles ending.2.files := by
  have hempty : (Run.runIn (save onlyJson usual (Path.ofText "a.ini"))
      (World.start oneLetter ())).2.files.fileAt? ["a.ini"] = some [] := rfl
  have hletter : oneLetter.fileAt? ["a.ini"] = some [0x78] := rfl
  refine ⟨rfl, hletter, hempty, fun hsame => ?_⟩
  have hboth := hsame ["a.ini"]
  rw [hempty, hletter] at hboth
  cases hboth

end SchemaGate.Settings
