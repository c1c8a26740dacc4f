import SchemaGate.Loading.Reader
import SchemaGate.Proofs.Resource.Resolver
import SchemaGate.Proofs.Xml.Asking

/-! The steps of loading.

    What loading does besides asking its resolver, failing, logging and asking the file system is to
    report problems; an engine does nothing but ask. So what holds of these holds of loading a document
    (`load_holds`) and of a reader that loads a file (`DefinitionReader.load_holds`). -/

namespace SchemaGate

variable {σ : Type} (D : RunDiscipline σ)

theorem InputSource.take_holds (source : InputSource) : D.Holds (source.take : Run σ Bytes) :=
  D.askFiles _

namespace Loading

section Asking

variable {l : DocumentLoader σ}
  (hresolved : ∀ publicId systemId, D.Holds (resolved l.resolver publicId systemId))

include hresolved

theorem fetch_holds (request : Xml.EntityRequest) : D.Holds (fetch l request) := by
  refine D.bind (hresolved _ _) fun source => ?_
  cases source with
  | none => exact D.askFiles fun fs => .ok (l.engine.openItself l.isOffline fs request.address)
  | some source => exact D.bind (D.askFiles _) fun _ => D.pure _

/-- What an engine does while it asks is what the answers do. -/
theorem asking_holds {α : Type} (x : Xml.Asking α) : D.Holds (x.run (fetch l)) :=
  Xml.Asking.run_holds D.toDiscipline (fetch_holds D hresolved) x

theorem readSchema_holds (location : Text) (source : InputSource) :
    D.Holds (readSchema l location source) := by
  refine D.bind (source.take_holds D) fun bytes => D.bind (asking_holds D hresolved _) fun outcome => ?_
  cases outcome with
  | error f => exact D.throw _
  | ok d =>
    refine D.bind (asking_holds D hresolved _) fun compiled => ?_
    cases compiled with
    | error reason => exact D.throw _
    | ok judge => exact D.pure _

section Reporting

variable (hreport : ∀ severity finding, D.Holds (Run.report severity finding))

include hreport

theorem readDocument_holds (mode : Mode) (source : InputSource) :
    D.Holds (readDocument .story l mode source) := by
  refine D.bind (source.take_holds D) fun bytes => D.bind (asking_holds D hresolved _) fun outcome => ?_
  cases outcome with
  | ok d => exact D.pure _
  | error f => exact D.bind (hreport _ _) fun _ => D.throw _

omit hresolved in
theorem reportFlaws_holds (j : Xml.Judgement) : D.Holds (reportFlaws (σ := σ) .story j) :=
  D.forM (fun _ => hreport _ _) _

omit hresolved in
theorem validateByDoctype_holds (e : Xml.Engine) (d : Xml.Document) :
    D.Holds (validateByDoctype (σ := σ) .story e d) := by
  rw [validateByDoctype]
  split
  · exact hreport _ _
  · exact reportFlaws_holds D hreport _

theorem validateBySchema_holds (d : Xml.Document) : D.Holds (validateBySchema .story l d) := by
  rw [validateBySchema]
  refine D.bind (D.forM (fun r : Record => D.log r.level r.topic r.text) _) fun _ => ?_
  split
  · exact hreport _ _
  · refine D.bind (hresolved _ _) fun source => ?_
    cases source with
    | none => exact hreport _ _
    | some source =>
      exact D.bind (readSchema_holds D hresolved _ _) fun _ => reportFlaws_holds D hreport _

/-- What holds of asking the resolver and of reporting holds of loading a document. -/
theorem load_holds (mode : Mode) (isNamespaceAware : Bool) (source : InputSource) :
    D.Holds (load l mode isNamespaceAware source) := by
  have hvalidate : ∀ d, D.Holds (validate .story l mode d) := fun d => by
    cases mode with
    | dtd => exact validateByDoctype_holds D hreport _ d
    | xsd => exact validateBySchema_holds D hresolved hreport d
    | none | auto => exact D.pure _
  exact D.bind (D.log _ _ _) fun _ => D.bind (readDocument_holds D hresolved hreport mode source) fun d =>
    D.bind (hvalidate d) fun _ => D.bind (D.ofExcept _) fun _ => D.bind (D.log _ _ _) fun _ => D.pure _

end Reporting

end Asking

end Loading

/-! ### Readers -/

theorem Detection.detectFile_holds (d : Detector) (path : Text) : D.Holds (Detection.detectFile d path) := by
  refine D.bind (D.askFiles _) fun bytes => D.bind ?_ fun _ => D.bind (D.ofExcept _) fun mode =>
    D.bind (D.log _ _ _) fun _ => D.pure _
  exact D.forIn (fun r : Record => D.log r.level r.topic r.text) _

namespace DefinitionReader

variable (r : DefinitionReader σ)

theorem modeFor_holds (path : Path) : D.Holds (r.modeFor path) := by
  rw [modeFor]
  split
  · exact D.pure _
  · refine D.bind (Detection.detectFile_holds D _ _) fun detected => ?_
    split
    · exact D.pure _
    · exact D.bind (D.log _ _ _) fun _ => D.pure _

theorem load_holds
    (hresolved : ∀ publicId systemId, D.Holds (r.resolver.resolve publicId systemId))
    (hreport : ∀ severity finding, D.Holds (Run.report severity finding)) (path : Path) :
    D.Holds (r.load path) := by
  have hload : ∀ mode isNamespaceAware source,
      D.Holds (Loading.load r.documents mode isNamespaceAware source) :=
    Loading.load_holds D hresolved hreport
  exact D.bind (modeFor_holds D r path) fun _ => D.bind (D.askFiles _) fun _ =>
    D.bind (hload _ _ _) fun _ => D.bind (D.log _ _ _) fun _ => D.pure _

end DefinitionReader

end SchemaGate
