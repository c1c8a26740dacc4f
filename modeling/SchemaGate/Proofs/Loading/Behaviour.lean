import SchemaGate.Proofs.Behaviour
import SchemaGate.Proofs.Loading.Steps
import SchemaGate.Proofs.Outcome

/-! How loading fails.

    Of the steps of loading a document, reading it and validating it fail in ways only that the commands
    answer (`readDocument_behaves`, `validate_behaves`): a refusal by the system, a document or a schema
    that is none, a table that cannot be loaded. What is left are detection, in front of them, and the
    cut of names behind them. -/

namespace SchemaGate

open Run (Behaves runIn)

variable {σ : Type} {P : Failure → Prop}

theorem take_behaves {source : InputSource} (h : SchemaResolver.Holding source) :
    Behaves P (source.take : Run σ Bytes) := by
  obtain ⟨bytes, hread⟩ := h
  refine .askFiles fun fs f hf => ?_
  rw [hread fs] at hf
  cases hf

namespace Loading

section

variable {l : DocumentLoader σ} (h : ∀ r ∈ l.resolver, r.loader.Behaves)

include h

theorem resolved_behaves (publicId systemId : Option Text) :
    Behaves (fun f => f.isAnswered = true) (resolved l.resolver publicId systemId) := by
  cases hr : l.resolver with
  | none => exact .pure none
  | some r => exact SchemaResolver.resolve_behaves (h r hr) publicId systemId

omit h in
theorem holding_of_resolved {publicId systemId : Option Text} {source : InputSource} {w w' : World σ}
    (hrun : runIn (resolved l.resolver publicId systemId) w = (.ok (some source), w')) :
    SchemaResolver.Holding source := by
  cases hr : l.resolver with
  | none =>
    rw [hr] at hrun
    cases hrun
  | some r =>
    rw [hr] at hrun
    exact SchemaResolver.holding_of_resolve hrun

theorem fetch_behaves (request : Xml.EntityRequest) :
    Behaves (fun f => f.isAnswered = true) (fetch l request) := by
  refine .bind (resolved_behaves h _ _) fun source hsource => ?_
  cases source with
  | none => exact .bind .get fun w _ => .pure _
  | some source =>
    obtain ⟨w, w', hrun⟩ := hsource
    exact .bind (take_behaves (holding_of_resolved hrun)) fun _ _ => .pure _

theorem asking_behaves {α : Type} (x : Xml.Asking α) :
    Behaves (fun f => f.isAnswered = true) (x.run (fetch l)) :=
  Xml.Asking.run_holds (Run.behaving σ fun f => f.isAnswered = true) (fetch_behaves h) x

theorem readSchema_behaves (location : Text) {source : InputSource}
    (hsource : SchemaResolver.Holding source) :
    Behaves (fun f => f.isAnswered = true) (readSchema l location source) := by
  refine .bind (take_behaves hsource) fun bytes _ => .bind (asking_behaves h _) fun outcome _ => ?_
  cases outcome with
  | error f => exact .throw rfl
  | ok d =>
    refine .bind (asking_behaves h _) fun compiled _ => ?_
    cases compiled with
    | error reason => exact .throw rfl
    | ok judge => exact .pure judge

theorem readDocument_behaves (mode : Mode) {source : InputSource}
    (hsource : ∀ fs f, (source.read fs).1 = .error f → f.isAnswered = true) :
    Behaves (fun f => f.isAnswered = true) (readDocument .story l mode source) := by
  have htake : Behaves (fun f => f.isAnswered = true) (source.take : Run σ Bytes) := .askFiles hsource
  refine .bind htake fun bytes _ => .bind (asking_behaves h _) fun outcome _ => ?_
  cases outcome with
  | ok d => exact .pure d
  | error f => exact .bind (.report _ _) fun _ _ => .throw rfl

omit h in
theorem reportFlaws_behaves (j : Xml.Judgement) : Behaves P (reportFlaws (σ := σ) .story j) :=
  .forM fun _ _ => .report _ _

omit h in
theorem validateByDoctype_behaves (e : Xml.Engine) (d : Xml.Document) :
    Behaves P (validateByDoctype (σ := σ) .story e d) := by
  rw [validateByDoctype]
  split
  · exact .report _ _
  · exact reportFlaws_behaves _

omit h in
/-- What is wrong with the way a document names its schemas is told in the name of the markup. -/
theorem topic_of_schemaLocation {d : Xml.Document} {record : Record}
    (hrecord : record ∈ (schemaLocation d).2) : record.topic = .markup := by
  rw [schemaLocation] at hrecord
  split at hrecord
  · cases hrecord
  · simp only [Xml.schemaLocations] at hrecord
    split at hrecord
    · cases hrecord
    · simp only [List.mem_singleton] at hrecord
      rw [hrecord]

theorem validateBySchema_behaves (d : Xml.Document) :
    Behaves (fun f => f.isAnswered = true) (validateBySchema .story l d) := by
  rw [validateBySchema]
  have hrecords : ∀ record ∈ (schemaLocation d).2,
      Behaves (fun f => f.isAnswered = true) (Run.tell (.logged record) : Run σ Unit) := by
    intro record hrecord
    refine .tell fun r hr => ?_
    obtain rfl := List.mem_singleton.1 hr
    rw [topic_of_schemaLocation hrecord]
    rintro ⟨⟩
  refine .bind (.forM hrecords) fun _ _ => ?_
  split
  · exact .report _ _
  · refine .bind (resolved_behaves h _ _) fun source hsource => ?_
    cases source with
    | none => exact .report _ _
    | some source =>
      obtain ⟨w, w', hrun⟩ := hsource
      exact .bind (readSchema_behaves h _ (holding_of_resolved hrun)) fun judge _ =>
        reportFlaws_behaves (judge d)

theorem validate_behaves (mode : Mode) (d : Xml.Document) :
    Behaves (fun f => f.isAnswered = true) (validate .story l mode d) := by
  cases mode with
  | dtd => exact validateByDoctype_behaves _ d
  | xsd => exact validateBySchema_behaves h d
  | none | auto => exact .pure ()

/-- Loading fails in a way that is answered, or where a name cannot be cut. -/
theorem load_behaves (mode : Mode) (isNamespaceAware : Bool) {source : InputSource}
    (hsource : ∀ fs f, (source.read fs).1 = .error f → f.isAnswered = true)
    (himp : ∀ f, f.isAnswered = true → P f)
    (hfinished : ∀ d f, finished mode isNamespaceAware d = .error f → P f) :
    Behaves P (load l mode isNamespaceAware source) :=
  .bind (.log _ _ nofun) fun _ _ =>
    .bind ((readDocument_behaves h mode hsource).mono himp) fun d _ =>
      .bind ((validate_behaves h mode d).mono himp) fun _ _ =>
        .bind (.ofExcept (hfinished d)) fun d _ => .bind (.log _ _ nofun) fun _ _ => .pure d

end

end Loading

/-! ### Detection -/

namespace Detection

/-- What detection logs of bytes it logs in its own name. -/
theorem topic_of_detectBytes {d : Detector} {bytes : Bytes} {record : Record}
    (h : record ∈ (detectBytes d bytes).records) : record.topic = .detection := by
  have hverdict : ∀ mode, record ∈ verdictRecords mode → record.topic = .detection := by
    intro mode hmem
    cases mode with
    | dtd =>
      obtain rfl := List.mem_singleton.1 hmem
      rfl
    | none | auto | xsd => cases hmem
  rw [detectBytes, detect, Source.lineReader, Stream.ofBytes] at h
  dsimp only at h
  cases hfind : Encoding.find d.encoding with
  | error f =>
    rw [hfind] at h
    cases h
  | ok e =>
    rw [hfind] at h
    simp only [Bool.false_eq_true, if_false, Source.use, LineReader.detect] at h
    split at h
    · exact hverdict _ h
    · obtain rfl := List.mem_singleton.1 h
      rfl
    · cases h
    · cases h

theorem detectFile_behaves (d : Detector) (path : Text) :
    Behaves (fun _ => True) (detectFile d path : Run σ Mode) := by
  have hrecords : ∀ (records : List Record), (∀ r ∈ records, r.topic = .detection) →
      Behaves (fun _ => True) (ForIn.forIn records PUnit.unit fun r _ => do
        Run.tell (.logged r)
        pure (ForInStep.yield PUnit.unit) : Run σ PUnit) := by
    intro records h
    induction records with
    | nil => exact .pure _
    | cons r records ih =>
      rw [List.forall_mem_cons] at h
      have htell : Behaves (fun _ => True) (Run.tell (.logged r) : Run σ Unit) := by
        refine .tell ?_
        intro r' hr
        obtain rfl := List.mem_singleton.1 hr
        rw [h.1]
        exact nofun
      rw [List.forIn_cons]
      refine .bind (.bind htell fun _ _ => .pure _) ?_
      rintro (_ | _) -
      · exact .pure _
      · exact ih h.2
  refine .bind (.askFiles fun _ _ _ => trivial) ?_
  intro bytes _
  refine .bind (hrecords _ fun r hr => topic_of_detectBytes hr) ?_
  intro _ _
  refine .bind (.ofExcept fun _ _ => trivial) ?_
  intro mode _
  exact .bind (.log _ _ nofun) fun _ _ => .pure mode

end Detection

/-! ### Sources -/

/-- Reading closes the stream and leaves the rest of the source as it is. -/
theorem InputSource.read_closes (source : InputSource) (fs : FileSystem) :
    (source.read fs).2 = source.close := by
  obtain ⟨stream, publicId, systemId⟩ := source
  rcases stream with _ | ⟨content, closed⟩
  · rfl
  · cases closed
    · cases content <;> rfl
    · rfl

/-- So a stream is read once only. -/
theorem InputSource.read_again {source : InputSource} (h : source.stream.isSome = true)
    (fs fs' : FileSystem) : ((source.read fs).2.read fs').1 = .error .closedStream := by
  obtain ⟨stream, hstream⟩ := Option.isSome_iff_exists.1 h
  rw [source.read_closes, read, close, hstream]
  rfl

/-- A source over a file that could be opened is never closed before it is read. -/
theorem InputSource.read_ne_error_of_ofPath {fs : FileSystem} {path : Text} {source : InputSource}
    (h : ofPath fs path = .ok source) (fs' : FileSystem) (f : Failure) :
    (source.read fs').1 ≠ .error f := by
  rw [ofPath] at h
  obtain ⟨number, -, h⟩ := Outcome.bind_eq_ok.1 h
  cases h
  exact nofun

/-! ### Readers -/

namespace DefinitionReader

variable {codecs : Codecs} {engine : Xml.Engine} {fs : FileSystem} {s : Settings}
  {r : DefinitionReader σ}

/-- The reader of settings takes every part from one of them. -/
theorem ofSettings_eq_ok_iff : ofSettings codecs engine fs s = .ok r ↔
    ∃ directories location mode encoding, searchPaths s.schema.searchPaths = .ok directories ∧
      mappingsLocation s.schema.mappingsLocation = .ok location ∧ location.isBlank = false ∧
      Mode.parse s.document.validationMode = .ok mode ∧ encodingOf s.detector.encoding = .ok encoding ∧
      r = ⟨engine, s.document.noNetwork.isTruthy,
        ⟨(DirectoryLoader.ofPaths codecs fs directories DirectoryLoader.usualEncoding).toLoader, location⟩,
        mode, s.document.namespaceAware.isTruthy, ⟨codecs, encoding⟩⟩ := by
  constructor
  · intro h
    obtain ⟨directories, hdirectories, h⟩ := Outcome.bind_eq_ok.1 h
    obtain ⟨location, hlocation, h⟩ := Outcome.bind_eq_ok.1 h
    obtain ⟨resolver, hresolver, h⟩ := Outcome.bind_eq_ok.1 h
    obtain ⟨mode, hmode, h⟩ := Outcome.bind_eq_ok.1 h
    obtain ⟨encoding, hencoding, h⟩ := Outcome.bind_eq_ok.1 h
    cases h
    rw [SchemaResolver.create] at hresolver
    split at hresolver
    · cases hresolver
    · next hblank =>
      cases hresolver
      exact ⟨directories, location, mode, encoding, hdirectories, hlocation, by simpa using hblank, hmode,
        hencoding, rfl⟩
  · rintro ⟨directories, location, mode, encoding, hdirectories, hlocation, hblank, hmode, hencoding, rfl⟩
    rw [ofSettings, hdirectories, hlocation, hmode, hencoding]
    simp [bind, Except.bind, SchemaResolver.create, hblank, pure, Except.pure]

theorem loader_behaves_of_settings (h : ofSettings codecs engine fs s = .ok r) :
    r.resolver.loader.Behaves := by
  obtain ⟨directories, location, mode, encoding, -, -, -, -, -, rfl⟩ := ofSettings_eq_ok_iff.1 h
  exact DirectoryLoader.toLoader_behaves rfl

theorem loader_behaves (h : r.resolver.loader.Behaves) :
    ∀ resolver ∈ r.documents.resolver, resolver.loader.Behaves := by
  rintro _ ⟨⟩
  exact h

/-- No record of the command itself is written while a file is loaded. -/
theorem load_behaves (h : r.resolver.loader.Behaves) (path : Path) :
    Behaves (fun _ => True) (r.load path) := by
  have hmode : Behaves (fun _ => True) (r.modeFor path) := by
    rw [modeFor]
    split
    · exact .pure _
    · refine .bind (Detection.detectFile_behaves _ _) ?_
      intro detected _
      split
      · exact .pure _
      · exact .bind (.log _ _ (by simp)) fun _ _ => .pure _
  refine .bind hmode ?_
  intro mode _
  refine .bind (.askFiles fun _ _ _ => trivial) ?_
  intro source hsource
  obtain ⟨w, w', hopened⟩ := hsource
  rw [Run.runIn_askFiles] at hopened
  have hread : ∀ fs f, (source.read fs).1 = .error f → f.isAnswered = true := by
    intro fs f hf
    exact absurd hf (InputSource.read_ne_error_of_ofPath (congrArg Prod.fst hopened) fs f)
  refine .bind (Loading.load_behaves (loader_behaves h) _ _ hread (fun _ _ => trivial) fun _ _ _ => trivial) ?_
  intro d _
  exact .bind (.log _ _ (by simp)) fun _ _ => .pure _

end DefinitionReader

end SchemaGate
