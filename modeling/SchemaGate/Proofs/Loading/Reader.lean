import SchemaGate.Loading.Reader
import SchemaGate.Proofs.Files.Path
import SchemaGate.Proofs.Loading.Hearing
import SchemaGate.Proofs.Xml.Names
import SchemaGate.Proofs.Xml.Unqualified

/-! Modes and trees of loaded documents.

    A reader takes a mode for a file (`runIn_modeFor`): the configured one, or the one that is detected
    from its bytes. The document is then parsed from the same bytes (`exists_parsed_of_load`) and handed
    out as it was parsed, or without the namespaces of its elements (`finished_cases`). Detection,
    validation and the choice between the two agree on one mode, so mode and tree of what is loaded agree
    as well (`mode_and_tree_agree`). Of the engine that parses only this is asked: that no name of an
    element holds a brace. -/

namespace SchemaGate

open Run (runIn runIn_bind runIn_bind_eq_ok)

variable {σ : Type}

namespace World

/-- The world in which more events were told. -/
def toldAll (w : World σ) (events : List Event) : World σ := { w with events := w.events ++ events }

@[simp] theorem files_toldAll (w : World σ) (events : List Event) :
    (w.toldAll events).files = w.files := rfl

@[simp] theorem toldAll_nil (w : World σ) : w.toldAll [] = w := by simp [toldAll]

@[simp] theorem toldAll_told (w : World σ) (e : Event) (events : List Event) :
    (w.told e).toldAll events = w.toldAll (e :: events) := by simp [toldAll, told]

@[simp] theorem told_toldAll (w : World σ) (events : List Event) (e : Event) :
    (w.toldAll events).told e = w.toldAll (events ++ [e]) := by simp [toldAll, told]

end World

namespace Detection

theorem runIn_tellRecords (records : List Record) (w : World σ) :
    runIn (forIn records PUnit.unit fun r _ => do
      Run.tell (.logged r)
      pure (ForInStep.yield PUnit.unit)) w = (.ok PUnit.unit, w.toldAll (records.map .logged)) := by
  induction records generalizing w with
  | nil => simp
  | cons r records ih =>
    simp only [List.forIn_cons, runIn_bind, Run.runIn_tell, Run.runIn_pure, ih]
    simp

/-- Detecting the mode of a file is detecting that of its bytes, and telling of it. -/
theorem runIn_detectFile (d : Detector) (path : Text) (w : World σ) :
    ∃ told, runIn (detectFile d path) w =
      ((w.files.read path).bind fun bytes => (detectBytes d bytes).outcome, w.toldAll told) := by
  rw [detectFile, runIn_bind, Run.runIn_askFiles]
  cases w.files.read path with
  | error f => exact ⟨[], by simp [Except.bind]⟩
  | ok bytes =>
    dsimp only
    rw [runIn_bind, runIn_tellRecords]
    dsimp only
    rw [runIn_bind, Run.runIn_ofExcept]
    cases ho : (detectBytes d bytes).outcome with
    | error f => exact ⟨_, Prod.ext ho.symm rfl⟩
    | ok mode =>
      simp only [runIn_bind, Run.runIn_log, Run.runIn_pure, World.told_toldAll]
      exact ⟨_, Prod.ext ho.symm rfl⟩

end Detection

namespace InputSource

/-- A source over a file at a path is read as the file is, and known by the address of the path. -/
theorem read_of_ofPath {fs : FileSystem} {t : Text} {source : InputSource}
    (h : ofPath fs (Path.ofText t).text = .ok source) :
    (source.read fs).1 = fs.read (Path.ofText t).text ∧
      source.systemId = some (Path.address (fs.absolute (Path.ofText t))) := by
  rw [ofPath, Path.ofText_text] at h
  obtain ⟨number, hopen, h⟩ := Outcome.bind_eq_ok.1 h
  cases h
  simp [read, FileSystem.read, hopen, Except.map]

end InputSource

namespace Loading

open Xml

/-- A source was read and its document parsed before a document is handed out. -/
theorem exists_parsed_of_load {l : DocumentLoader σ} {mode : Mode}
    {isNamespaceAware : Bool} {source : InputSource} {w w' : World σ} {d' : Document}
    (h : runIn (load l mode isNamespaceAware source) w = (.ok d', w')) :
    ∃ told bytes d w₁, (source.read w.files).1 = .ok bytes ∧
      runIn ((l.engine.parse ⟨mode = .dtd, l.isOffline, source.systemId⟩ bytes).run (fetch l))
        (w.toldAll told) = (.ok (.ok d), w₁) ∧
      finished mode isNamespaceAware d = .ok d' := by
  obtain ⟨_, w₁, hlog, h⟩ := runIn_bind_eq_ok.1 h
  obtain ⟨d, w₂, hdocument, h⟩ := runIn_bind_eq_ok.1 h
  obtain ⟨_, w₃, -, h⟩ := runIn_bind_eq_ok.1 h
  obtain ⟨d₁, w₄, hfinished, h⟩ := runIn_bind_eq_ok.1 h
  obtain ⟨_, w₅, -, h⟩ := runIn_bind_eq_ok.1 h
  cases h
  have hfinished : finished mode isNamespaceAware d = .ok d' := by
    have hrun := (Run.runIn_ofExcept (finished mode isNamespaceAware d) w₃).symm.trans hfinished
    exact congrArg Prod.fst hrun
  obtain ⟨e, rfl⟩ : ∃ e, w₁ = w.told e := ⟨_, (congrArg Prod.snd hlog).symm⟩
  obtain ⟨bytes, w₆, hbytes, h⟩ := runIn_bind_eq_ok.1 hdocument
  have hbytes := (Run.runIn_askFiles (fun fs => (source.read fs).1) _).symm.trans hbytes
  obtain ⟨outcome, w₇, hread, h⟩ := runIn_bind_eq_ok.1 h
  match outcome with
  | .error line =>
    obtain ⟨_, w₈, -, h⟩ := runIn_bind_eq_ok.1 h
    cases h
  | .ok d₂ =>
    cases h
    obtain ⟨hcontent, rfl⟩ := Prod.mk.inj hbytes
    exact ⟨[e], bytes, d, w₂, hcontent, hread, hfinished⟩

/-- That namespaces are kept in the mode of schemas is asked for twice, and once is enough. -/
theorem finished_forced (mode : Mode) (isNamespaceAware : Bool) (d : Document) :
    finished mode (isNamespaceAware || mode = .xsd) d = finished mode isNamespaceAware d := by
  rw [finished, finished, Bool.or_assoc, Bool.or_self]

/-- A document is handed out as it was parsed, or without the namespaces of its elements. -/
theorem finished_cases {mode : Mode} {isNamespaceAware : Bool} {d d' : Document}
    (h : finished mode isNamespaceAware d = .ok d') :
    ((isNamespaceAware || mode = .xsd) = true ∧ d' = d) ∨
      ((isNamespaceAware || mode = .xsd) = false ∧ d.root.withoutNamespaces = .ok d'.root) := by
  rw [finished] at h
  split at h
  · next hkeeps =>
    cases h
    exact .inl ⟨hkeeps, rfl⟩
  · next hdrops =>
    obtain ⟨root, hroot, rfl⟩ := Outcome.map_eq_ok.1 h
    exact .inr ⟨by simpa using hdrops, hroot⟩

/-- Elements that are handed out keep their local parts. They keep their namespaces, too, unless none of
them is left one. -/
theorem heads_of_finished {mode : Mode} {isNamespaceAware : Bool} {d d' : Document}
    (hcut : Node.Cuttable d.root.heads) (h : finished mode isNamespaceAware d = .ok d') :
    (∀ e ∈ d'.root.heads, e.name.space ≠ none → mode = .xsd ∨ isNamespaceAware = true) ∧
      d'.root.heads.map (·.name.part) = d.root.heads.map (·.name.part) := by
  obtain ⟨hkeeps, rfl⟩ | ⟨-, hroot⟩ := finished_cases h
  · exact ⟨fun _ _ _ => by simpa [or_comm] using hkeeps, rfl⟩
  · have hheads := Node.heads_withoutNamespaces hcut hroot
    refine ⟨fun e he hspace => ?_, ?_⟩
    · have hmem := List.mem_map_of_mem (f := fun e : Head => (e.name.space, e.name.part)) he
      rw [hheads] at hmem
      obtain ⟨_, -, heq⟩ := List.mem_map.1 hmem
      exact absurd (congrArg Prod.fst heq).symm hspace
    · have hparts := congrArg (List.map Prod.snd) hheads
      rwa [List.map_map, List.map_map] at hparts

end Loading

namespace DefinitionReader

/-- The mode that a reader takes for a file: the configured one, or else the one that is detected from
its bytes, with a schema expected where that gives up. -/
def modeOf (r : DefinitionReader σ) (fs : FileSystem) (path : Path) : Except Failure Mode :=
  if r.mode ≠ .auto then .ok r.mode
  else (fs.read path.text).bind fun bytes =>
    (Detection.detectBytes r.detector bytes).outcome.map fun detected =>
      if detected = .auto then .xsd else detected

theorem runIn_modeFor (r : DefinitionReader σ) (path : Path) (w : World σ) :
    ∃ told, runIn (r.modeFor path) w = (r.modeOf w.files path, w.toldAll told) := by
  rw [modeFor, modeOf]
  split
  · exact ⟨[], by simp⟩
  · obtain ⟨told, hdetect⟩ := Detection.runIn_detectFile r.detector path.text w
    rw [runIn_bind, hdetect]
    cases w.files.read path.text with
    | error f => exact ⟨told, rfl⟩
    | ok bytes =>
      cases ho : (Detection.detectBytes r.detector bytes).outcome with
      | error f => exact ⟨told, by simp [Except.bind, Except.map, ho]⟩
      | ok detected =>
        simp only [Except.bind, Except.map, ho]
        split
        · exact ⟨told, by simp⟩
        · next hopen =>
          have hopen : detected = .auto := by simpa using hopen
          simp only [runIn_bind, Run.runIn_log, Run.runIn_pure, World.told_toldAll, hopen]
          exact ⟨_, rfl⟩

theorem modeOf_cases {r : DefinitionReader σ} {fs : FileSystem} {path : Path} {mode : Mode}
    (h : r.modeOf fs path = .ok mode) :
    (r.mode ≠ .auto ∧ mode = r.mode) ∨
      (r.mode = .auto ∧ ∃ bytes detected, fs.read path.text = .ok bytes ∧
        (Detection.detectBytes r.detector bytes).outcome = .ok detected ∧
        mode = if detected = .auto then .xsd else detected) := by
  rw [modeOf] at h
  split at h
  · next hne =>
    cases h
    exact .inl ⟨hne, rfl⟩
  · next hauto =>
    obtain ⟨bytes, hread, h⟩ := Outcome.bind_eq_ok.1 h
    obtain ⟨detected, ho, hmode⟩ := Outcome.map_eq_ok.1 h
    exact .inr ⟨by simpa using hauto, bytes, detected, hread, ho, hmode.symm⟩

/-- A file is loaded in the mode that the reader takes for it. -/
theorem runIn_load_eq_ok {r : DefinitionReader σ} {path : Path} {w : World σ}
    {loaded : LoadedDocument} :
    (∃ w', runIn (r.load path) w = (.ok loaded, w')) ↔
      ∃ mode w₁ source d w₂, runIn (r.modeFor path) w = (.ok mode, w₁) ∧
        InputSource.ofPath w₁.files path.text = .ok source ∧
        runIn (Loading.load r.documents mode (r.isNamespaceAware || mode = .xsd) source) w₁ =
          (.ok d, w₂) ∧
        loaded = ⟨path, mode, d⟩ := by
  constructor
  · rintro ⟨w', hload⟩
    obtain ⟨mode, w₁, hmode, hload⟩ := runIn_bind_eq_ok.1 hload
    obtain ⟨source, w₂, hsource, hload⟩ := runIn_bind_eq_ok.1 hload
    obtain ⟨d, w₃, hd, hload⟩ := runIn_bind_eq_ok.1 hload
    obtain ⟨_, w₄, -, hload⟩ := runIn_bind_eq_ok.1 hload
    cases hload
    obtain ⟨hopened, rfl⟩ := Prod.mk.inj ((Run.runIn_askFiles _ _).symm.trans hsource)
    exact ⟨mode, w₁, source, d, w₃, hmode, hopened, hd, rfl⟩
  · rintro ⟨mode, w₁, source, d, w₂, hmode, hsource, hd, rfl⟩
    simp only [load, runIn_bind, hmode, Run.runIn_askFiles, hsource, hd, Run.runIn_log, Run.runIn_pure]
    exact ⟨_, rfl⟩

/-- What a handler lets pass is what loading comes to. -/
theorem outcome_of_loadHeard {r : DefinitionReader σ} {handler : Handler} {w : World σ} {path : Path}
    {loaded : LoadedDocument} (h : (r.loadHeard handler w path).1.outcome = .ok loaded) :
    ∃ w', runIn (r.load path) { w with events := [] } = (.ok loaded, w') := by
  rw [loadHeard] at h
  rcases hrun : runIn (r.load path) { w with events := [] } with ⟨outcome, w'⟩
  simp only [hrun, Handler.attend] at h
  obtain ⟨-, -, rfl⟩ := Outcome.bind_eq_ok.1 h
  exact ⟨w', rfl⟩

/-- Mode and tree agree in every document that is loaded, whoever hears of its problems. -/
theorem mode_and_tree_agree (r : DefinitionReader σ) (hnames : r.engine.ReadsNames) (handler : Handler)
    (w : World σ) (t : Text) {loaded : LoadedDocument}
    (h : (r.loadHeard handler w (Path.ofText t)).1.outcome = .ok loaded) :
    let path := Path.ofText t
    let keepsNamespaces := loaded.mode = .xsd ∨ r.isNamespaceAware = true
    loaded.mode ≠ .auto ∧ (r.mode ≠ .auto → loaded.mode = r.mode) ∧
    ∃ bytes parsed told w', w.files.read path.text = .ok bytes ∧
      (r.mode = .auto → ∃ detected,
        (runIn (Detection.detectFile r.detector path.text) w).1 = .ok detected ∧
        (Detection.detectBytes r.detector bytes).outcome = .ok detected ∧
        loaded.mode = if detected = .auto then .xsd else detected) ∧
      runIn ((r.engine.parse ⟨loaded.mode = .dtd, r.isOffline, some (Path.address (w.files.absolute path))⟩
        bytes).run (Loading.fetch r.documents)) { w with events := told } = (.ok (.ok parsed), w') ∧
      (keepsNamespaces → loaded.document = parsed) ∧
      ((∀ e ∈ parsed.root.heads, e.name.Separable) →
        (∀ e ∈ loaded.document.root.heads, e.name.space ≠ none → keepsNamespaces) ∧
        loaded.document.root.heads.map (·.name.part) = parsed.root.heads.map (·.name.part)) := by
  intro path keepsNamespaces
  obtain ⟨mode, w₁, source, d, w₂, hmode, hopened, hd, rfl⟩ :=
    runIn_load_eq_ok.1 (outcome_of_loadHeard h)
  obtain ⟨told, hrun⟩ := r.runIn_modeFor path { w with events := [] }
  obtain ⟨hmodeOf, rfl⟩ := Prod.mk.inj (hrun.symm.trans hmode)
  have hcases := modeOf_cases hmodeOf
  obtain ⟨hbytes, hid⟩ := InputSource.read_of_ofPath hopened
  obtain ⟨more, bytes, parsed, w₅, hread, hparsed, hfinished⟩ := Loading.exists_parsed_of_load hd
  rw [Loading.finished_forced] at hfinished
  have hfile : w.files.read path.text = .ok bytes := hbytes.symm.trans hread
  have hplain := hnames _ _ _ (Xml.Asking.yields_of_runIn hparsed)
  have hdetected : r.mode = .auto → ∃ detected,
      (runIn (Detection.detectFile r.detector path.text) w).1 = .ok detected ∧
        (Detection.detectBytes r.detector bytes).outcome = .ok detected ∧
        mode = if detected = .auto then .xsd else detected := by
    intro hauto
    obtain ⟨hne, -⟩ | ⟨-, bytes', detected, hfile', houtcome, hmode⟩ := hcases
    · exact absurd hauto hne
    · cases hfile.symm.trans hfile'
      obtain ⟨_, hrun⟩ := Detection.runIn_detectFile r.detector path.text w
      refine ⟨detected, ?_, houtcome, hmode⟩
      rw [hrun, hfile]
      exact houtcome
  refine ⟨?_, ?_, bytes, parsed, _, w₅, hfile, hdetected, hid ▸ hparsed, fun hkeeps => ?_,
    fun hseparable => Loading.heads_of_finished (fun e he => ⟨hplain e he, hseparable e he⟩) hfinished⟩
  · obtain ⟨hne, rfl⟩ | ⟨-, _, detected, -, -, rfl⟩ := hcases
    · exact hne
    · cases detected <;> exact nofun
  · obtain ⟨-, rfl⟩ | ⟨hauto, -⟩ := hcases
    · exact fun _ => rfl
    · exact fun hne => absurd hauto hne
  · obtain ⟨-, rfl⟩ | ⟨hdrops, -⟩ := Loading.finished_cases hfinished
    · rfl
    · exact absurd hkeeps (by simpa [keepsNamespaces, or_comm] using hdrops)

/-- A reader that detects modes, of files that it takes for UTF-32. -/
def detecting : DefinitionReader Unit :=
  ⟨.builtIn, true, Loading.nowhere, .auto, false, ⟨.plain, "utf-32-le"⟩⟩

/-- A file that holds `<a/>`, which is no character in UTF-32. -/
def oneElement : FileSystem where
  cwd := []
  entries := [([("a" : Text)], .file 0)]
  contents := [[0x3C, 0x61, 0x2F, 0x3E]]

theorem detectBytes_oneElement :
    (Detection.detectBytes detecting.detector [0x3C, 0x61, 0x2F, 0x3E]).outcome = .ok .auto :=
  Outcome.eq_ok_of_toOption (by decide +kernel)

theorem exists_load_oneElement :
    ∃ loaded w', runIn (detecting.load (Path.ofText "a")) (World.start oneElement ()) =
      (.ok loaded, w') := by
  have hsome : (runIn (detecting.load (Path.ofText "a")) (World.start oneElement ())).1.toOption.isSome =
    true := by decide +kernel
  rcases hload : runIn (detecting.load (Path.ofText "a")) (World.start oneElement ()) with ⟨f | loaded, w'⟩
  · rw [hload] at hsome
    cases hsome
  · exact ⟨loaded, w', rfl⟩

/-- Detection gives up on the file, so it is loaded in the mode of schemas. -/
theorem mode_and_tree_agree_oneElement :
    detecting.engine.ReadsNames ∧ ∃ loaded, (detecting.loadHeard (.collector none) (World.start oneElement ())
        (Path.ofText "a")).1.outcome = .ok loaded ∧ loaded.mode = .xsd := by
  obtain ⟨loaded, w', hload⟩ := exists_load_oneElement
  have houtcome : (detecting.loadHeard (.collector none) (World.start oneElement ())
      (Path.ofText "a")).1.outcome = .ok loaded := by
    have hrun : runIn (detecting.load (Path.ofText "a")) { World.start oneElement () with events := [] } =
      (.ok loaded, w') := hload
    simp only [loadHeard, hrun, Handler.attend, Handler.collector, Handler.hearAll_collecting]
    rfl
  obtain ⟨-, -, bytes, parsed, told, w', hfile, hdetected, -⟩ :=
    mode_and_tree_agree _ Xml.Engine.readsNames_builtIn _ _ _ houtcome
  obtain ⟨detected, -, hdetect, hmode⟩ := hdetected rfl
  obtain rfl : bytes = [0x3C, 0x61, 0x2F, 0x3E] := (Except.ok.inj hfile).symm
  cases detectBytes_oneElement.symm.trans hdetect
  exact ⟨Xml.Engine.readsNames_builtIn, loaded, houtcome, hmode⟩

end DefinitionReader

end SchemaGate
