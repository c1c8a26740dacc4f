import SchemaGate.Proofs.Encoding.Utf8
import SchemaGate.Proofs.Loading.Course
import SchemaGate.Proofs.Xml.WholeDoctype

/-! Validation by a document type in two subsets.

    A document whose external subset was read is validated by that one alone. With every engine that
    judges by what is declared, it is judged as by both subsets together where the internal one says
    nothing of what is in it, and never let pass where it needs the internal one (`judged_by_external`).
    So a document that both subsets allow can be reported (`declared_element_can_be_reported`). -/

namespace SchemaGate.Loading

open Xml

variable {σ : Type}

/-- What is told of a document with two subsets is what speaks against it by the external one. -/
structure JudgedByExternal (e : Engine) (t : Doctype) (external : Subset) (d : Document)
    (told : List Problem) : Prop where
  told_eq : told = (e.judge external d).flaws.map fun f => ⟨.error, f⟩
  nothing_iff : told = [] ↔ external.Allows e d
  /-- The judgement is that of both subsets exactly where the internal one does not matter to it. -/
  whole_iff : (told = [] ↔ t.whole.Allows e d) ↔ (external.Allows e d ↔ t.whole.Allows e d)
  of_silent : Validity.Silent t.internal external d.root → (told = [] ↔ t.whole.Allows e d)
  /-- What only the internal subset declares is never let pass. -/
  of_undeclared : (∃ x ∈ d.root.elements, Validity.Undeclared external x.1) →
    ∃ finding, ⟨.error, finding⟩ ∈ told

theorem judgedByExternal {e : Engine} (he : e.JudgesByDeclarations) {t : Doctype} {external : Subset}
    {d : Document} (hexternal : t.external = some external) :
    JudgedByExternal e t external d ((e.judge external d).flaws.map fun f => ⟨.error, f⟩) := by
  have hnothing : (e.judge external d).flaws.map (fun f => (⟨.error, f⟩ : Problem)) = [] ↔
      external.Allows e d := List.map_eq_nil_iff.trans he.flaws_eq_nil_iff
  refine ⟨rfl, hnothing, by rw [hnothing], fun hsilent => ?_, fun hundeclared => ?_⟩
  · rw [hnothing, Doctype.whole_allows_iff he hexternal hsilent]
  · have hinvalid : ¬ external.Allows e d := fun hallows => by
      rw [Subset.Allows, he.undeclared hundeclared] at hallows
      cases hallows
    obtain ⟨f, hf⟩ := List.exists_mem_of_ne_nil _ (mt he.flaws_eq_nil_iff.1 hinvalid)
    exact ⟨f, List.mem_map_of_mem hf⟩

/-- An external subset that was read is the one that validates. -/
theorem validatingSubset?_of_external {t : Doctype} {external : Subset} {d : Document}
    (hdoctype : d.prolog.doctype = some t) (hexternal : t.external = some external) :
    validatingSubset? d = some external := by
  rw [validatingSubset?, hdoctype, Option.map_some, hexternal, Option.getD_some]

section

variable {l : DocumentLoader σ} (hr : ∀ r ∈ l.resolver, r.loader.Within .onlyRecords)
  {source : InputSource} {bytes : Bytes} {w w₁ : World σ} {d : Document}
  (hread : (source.read w.files).1 = .ok bytes)
  (hparsed : parse l .dtd source bytes w = (.ok (.ok d), w₁))

include hr hread hparsed

/-- A document with a document type is validated by one of its subsets, and handed out. -/
theorem collected_by_subset {subset : Subset} (hsubset : validatingSubset? d = some subset)
    (isNamespaceAware : Bool) (name : Option Text) (report : Report) :
    let heard := loadFor (some (.collecting name report)) l .dtd isNamespaceAware source w
    let told := (l.engine.judge subset d).flaws.map fun f => (⟨.error, f⟩ : Problem)
    heard.handler = .collecting name ((told.map (Handler.entry name)).foldl Report.add report) ∧
      heard.outcome = finished .dtd isNamespaceAware d := by
  intro heard told
  obtain ⟨told', hvalidation, hcomes⟩ := exists_judged hr (by decide) hread hparsed
  obtain ⟨w', hcomes⟩ := hcomes isNamespaceAware
  obtain rfl : told' = told := by
    cases hvalidation with
    | unwanted hmode => rcases hmode with hmode | hmode <;> cases hmode
    | noDoctype hdoctype => simp [validatingSubset?, hdoctype] at hsubset
    | byDoctype hsubset' =>
      cases hsubset.symm.trans hsubset'
      rfl
  obtain ⟨hhandler, houtcome⟩ := loadFor_of_comes hr hcomes (some (.collecting name report))
  rw [Option.getD_some, Handler.heed_collecting] at hhandler houtcome
  exact ⟨hhandler, houtcome⟩

/-- In a report on a document whose external subset was read stands what speaks against the document by
this one, one error for each entry of the judgement. -/
theorem judged_by_external (hjudges : l.engine.JudgesByDeclarations) {t : Doctype} {external : Subset}
    (hdoctype : d.prolog.doctype = some t) (hexternal : t.external = some external)
    (isNamespaceAware : Bool) (name : Option Text) (report : Report) :
    let heard := loadFor (some (.collecting name report)) l .dtd isNamespaceAware source w
    ∃ told after, heard.handler = .collecting name after ∧
      after.entries = report.entries ++ told.map (Handler.entry name) ∧
      heard.outcome = finished .dtd isNamespaceAware d ∧
      JudgedByExternal l.engine t external d told := by
  intro heard
  have hsubset := validatingSubset?_of_external hdoctype hexternal
  obtain ⟨hhandler, houtcome⟩ := collected_by_subset hr hread hparsed hsubset isNamespaceAware name report
  exact ⟨_, _, hhandler, Report.entries_foldl_add _ _, houtcome, judgedByExternal hjudges hexternal⟩

end

/-! ### A document type that is split -/

/-- Serves the external subset of `a.dtd` in the current directory. -/
def here : DocumentLoader Unit :=
  ⟨.builtIn, true, some ⟨(DirectoryLoader.mk .plain [Path.ofText ""] DirectoryLoader.usualEncoding).toLoader,
    SchemaResolver.usualLocation⟩⟩

theorem loader_here : ∀ r ∈ here.resolver, r.loader.Within .onlyRecords := directories_within _ _

/-- A world in which the address of the external subset is mapped to a file. -/
def mapped : World Unit where
  files :=
    { cwd := []
      entries := [([("a.dtd" : Text)], .file 0)]
      contents := [Utf8.encode "<!ELEMENT a (b)>".toList] }
  tables := .holding [("http://x/a.dtd", "a.dtd")]
  store := ()
  events := []

/-- A document with an element that is declared outside and one that is declared inside. -/
def splitTag : Bytes :=
  Utf8.encode "<!DOCTYPE a SYSTEM \"http://x/a.dtd\" [<!ELEMENT b EMPTY>]><a><b/></a>".toList

/-- The document in memory. -/
def splitSource : InputSource := .ofBytes splitTag none none

/-- Is a document valid by its external subset, and by both subsets? -/
def verdicts (d : Document) : Option (Bool × Bool) :=
  d.prolog.doctype.bind fun t => t.external.map fun external =>
    ((Engine.builtIn.judge external d).isValid, (Engine.builtIn.judge t.whole d).isValid)

theorem verdicts_splitSource :
    (parsed? here .dtd splitSource splitTag mapped).bind verdicts = some (false, true) := by
  decide +kernel

/-- Both subsets allow the document, and the external one alone does not. -/
theorem exists_split :
    ∃ d t external w₁, parse here .dtd splitSource splitTag mapped = (.ok (.ok d), w₁) ∧
      d.prolog.doctype = some t ∧ t.external = some external ∧ ¬ external.Allows .builtIn d ∧
      t.whole.Allows .builtIn d := by
  obtain ⟨d, hd, hverdicts⟩ := Option.bind_eq_some_iff.1 verdicts_splitSource
  obtain ⟨t, hdoctype, hverdicts⟩ := Option.bind_eq_some_iff.1 hverdicts
  obtain ⟨external, hexternal, hverdicts⟩ := Option.map_eq_some_iff.1 hverdicts
  obtain ⟨hnot, hwhole⟩ := Prod.mk.inj hverdicts
  refine ⟨d, t, external, _, parse_eq (parse_of_parsed? hd), hdoctype, hexternal, ?_, hwhole⟩
  rw [Subset.Allows, hnot]
  exact Bool.false_ne_true

/-- Errors are told of the document. -/
theorem judged_by_external_split :
    ∃ d t external w₁, parse here .dtd splitSource splitTag mapped = (.ok (.ok d), w₁) ∧
      d.prolog.doctype = some t ∧ t.external = some external ∧
      (splitSource.read mapped.files).1 = .ok splitTag ∧
      (∀ r ∈ here.resolver, r.loader.Within .onlyRecords) ∧ here.engine.JudgesByDeclarations ∧
      ∃ told, JudgedByExternal here.engine t external d told ∧ told ≠ [] := by
  obtain ⟨d, t, external, w₁, hparsed, hdoctype, hexternal, hnot, -⟩ := exists_split
  obtain ⟨told, -, -, -, -, hjudged⟩ := judged_by_external loader_here rfl hparsed
    Engine.judgesByDeclarations_builtIn hdoctype hexternal true none Report.empty
  exact ⟨d, t, external, w₁, hparsed, hdoctype, hexternal, rfl, loader_here,
    Engine.judgesByDeclarations_builtIn, told, hjudged,
    fun hnothing => hnot (hjudged.nothing_iff.1 hnothing)⟩

/-- A document that is valid by both subsets together is reported: one of its elements is declared in the
internal subset only. -/
theorem declared_element_can_be_reported :
    ∃ d t external w₁ report, parse here .dtd splitSource splitTag mapped = (.ok (.ok d), w₁) ∧
      d.prolog.doctype = some t ∧ t.external = some external ∧ t.whole.Allows .builtIn d ∧
      (loadFor (some (.collector none)) here .dtd true splitSource mapped).handler =
        .collecting none report ∧
      ∃ e ∈ report.entries, e.severity = some Severity.error.name := by
  obtain ⟨d, t, external, w₁, hparsed, hdoctype, hexternal, hnot, hwhole⟩ := exists_split
  have hsubset := validatingSubset?_of_external hdoctype hexternal
  obtain ⟨hhandler, -⟩ := collected_by_subset loader_here rfl hparsed hsubset true none Report.empty
  have hflaws := mt Engine.judgesByDeclarations_builtIn.flaws_eq_nil_iff.1 hnot
  obtain ⟨f, hf⟩ := List.exists_mem_of_ne_nil _ hflaws
  refine ⟨d, t, external, w₁, _, hparsed, hdoctype, hexternal, hwhole, hhandler,
    Handler.entry none ⟨.error, f⟩, ?_, rfl⟩
  rw [Report.entries_foldl_add]
  exact List.mem_append_right _ (List.mem_map_of_mem (List.mem_map_of_mem hf))

end SchemaGate.Loading
