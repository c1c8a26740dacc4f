import SchemaGate.Hearing
import SchemaGate.Proofs.Loading.Steps
import SchemaGate.Xml.BuiltIn

/-! Handlers that hear of problems while a document is loaded.

    Loading takes its problems down as a story, and a handler hears the story afterwards
    (`Handler.attend`). Told of each problem as it comes up (`Hearing.teller`), and stopped where the
    handler refuses to go on, loading gives every handler the same (`load_follows`): what loading asks
    for on the way only writes records. So two handlers hear the same story, one of them up to its first
    error (`strict_hears_collected`). -/

namespace SchemaGate

open Run (runIn Within)

/-! ### Hearing of events -/

theorem Run.records_logged (records : List Record) :
    Run.records (records.map .logged) = records := by
  rw [Run.records, List.filterMap_map]
  exact List.filterMap_some

namespace Event

/-- The problem that an event tells. -/
def problem? : Event → Option Problem
  | .logged _ => none
  | .problem p => some p

/-- The record that a strict handler lets through or writes. -/
def record : Event → Record
  | .logged r => r
  | .problem p => ⟨.warning, .handler, "Ignored XML validation warning: " ++ p.finding.text⟩

end Event

/-- The problems among events. -/
def problems (events : List Event) : List Problem := events.filterMap Event.problem?

theorem problems_append (a b : List Event) : problems (a ++ b) = problems a ++ problems b :=
  List.filterMap_append

theorem problems_logged (records : List Record) : problems (records.map .logged) = [] := by
  simp [problems, List.filterMap_map, Function.comp_def, Event.problem?]

/-- Is it more than a warning? -/
def Problem.isGrave (p : Problem) : Bool := p.severity ≠ .warning

namespace Handler

theorem hearAll_append (h : Handler) (a b : List Event) :
    h.hearAll (a ++ b) =
      match (h.hearAll a).outcome with
      | .ok () =>
        let heard := (h.hearAll a).handler.hearAll b
        ⟨heard.handler, (h.hearAll a).records ++ heard.records, heard.outcome⟩
      | .error _ => h.hearAll a := by
  induction a generalizing h with
  | nil => rfl
  | cons e a ih =>
    cases e with
    | logged r =>
      rw [List.cons_append, hearAll, ih, hearAll]
      cases ho : (h.hearAll a).outcome <;> simp [ho]
    | problem p =>
      rw [List.cons_append, hearAll, hearAll]
      rcases h.hear p with ⟨h', records, f | _⟩
      · rfl
      · dsimp only
        rw [ih]
        cases ho : (h'.hearAll a).outcome <;> simp [ho]

theorem hearAll_logged (h : Handler) (records : List Record) :
    h.hearAll (records.map .logged) = ⟨h, records, .ok ()⟩ := by
  induction records with
  | nil => rfl
  | cons r records ih => rw [List.map_cons, hearAll, ih]

/-- A strict handler hears events up to the first problem that is more than a warning. -/
theorem hearAll_strict (events : List Event) :
    match (problems events).find? Problem.isGrave with
    | some p => (strict.hearAll events).outcome = .error (.invalid p.finding)
    | none => strict.hearAll events = ⟨.strict, events.map Event.record, .ok ()⟩ := by
  induction events with
  | nil => rfl
  | cons e events ih =>
    cases e with
    | logged r =>
      rw [show problems (.logged r :: events) = problems events from rfl]
      split at ih
      · simp only [hearAll, ih]
      · simp only [hearAll, ih]
        rfl
    | problem p =>
      rw [show problems (.problem p :: events) = p :: problems events from rfl, List.find?_cons]
      rcases p with ⟨_ | _ | _, finding⟩
      · change match (problems events).find? Problem.isGrave with | some p => _ | none => _
        split at ih
        · simp only [hearAll, hear, ih]
        · simp only [hearAll, hear, ih]
          rfl
      · rfl
      · rfl

/-- A collecting handler hears all events and enters every problem. -/
theorem hearAll_collecting (source : Option Text) (report : Report) (events : List Event) :
    (collecting source report).hearAll events =
      ⟨.collecting source (((problems events).map (entry source)).foldl Report.add report),
        Run.records events, .ok ()⟩ := by
  induction events generalizing report with
  | nil => rfl
  | cons e events ih =>
    cases e with
    | logged r => rw [hearAll, ih]; rfl
    | problem p => rw [hearAll]; simp only [hear, ih]; rfl

end Handler

theorem Report.entries_foldl_add (report : Report) (entries : List Entry) :
    (entries.foldl Report.add report).entries = report.entries ++ entries := by
  induction entries generalizing report with
  | nil => simp
  | cons e entries ih =>
    have hadd : (report.add e).entries = report.entries ++ [e] := by
      rw [add]
      split
      · rfl
      · split <;> rfl
    rw [List.foldl_cons, ih, hadd, List.append_assoc, List.singleton_append]

theorem isError_entry (source : Option Text) (p : Problem) :
    Report.isError (Handler.entry source p) = p.isGrave := by
  rcases p with ⟨_ | _ | _, finding⟩ <;> rfl

/-- The first error of a report is the first grave problem. -/
theorem find?_isError_entries (source : Option Text) (ps : List Problem) :
    (ps.map (Handler.entry source)).find? Report.isError =
      (ps.find? Problem.isGrave).map (Handler.entry source) := by
  rw [List.find?_map]
  exact congrArg (Option.map _) (congrArg (List.find? · _) (funext (isError_entry source)))

theorem severity_entries {ps : List Problem} (h : ps.find? Problem.isGrave = none)
    (source : Option Text) :
    ∀ e ∈ ps.map (Handler.entry source), e.severity = some Severity.warning.name := by
  intro e he
  obtain ⟨p, hp, rfl⟩ := List.mem_map.1 he
  have hwarning : p.severity = .warning := by
    simpa [Problem.isGrave] using List.find?_eq_none.1 h p hp
  rw [Handler.entry, hwarning]

/-! ### Hearing while loading -/

/-- A handler that hears of problems as they come up: the world, the handler, and the records that were
written. -/
structure Listening (σ : Type) where
  world : World σ
  handler : Handler
  records : List Record

/-- A computation that a handler listens to, and may stop. -/
abbrev Hearing (σ α : Type) := ExceptT Failure (StateM (Listening σ)) α

namespace Hearing

variable {σ α β : Type}

/-- How it ends, and what it leaves. -/
def hearIn (hearing : Hearing σ α) (l : Listening σ) : Except Failure α × Listening σ :=
  hearing.run.run l

/-- Makes a run, whose records are written. -/
def run (action : Run σ α) : Hearing σ α := fun l =>
  let (outcome, w) := runIn action l.world
  (outcome, { l with
    world := w
    records := l.records ++ Run.records (w.events.drop l.world.events.length) })

/-- Reports a problem to the handler, which may refuse to go on. -/
def report (severity : Severity) (finding : Finding) : Hearing σ Unit := fun l =>
  let (handler, records, outcome) := l.handler.hear ⟨severity, finding⟩
  (outcome, ⟨l.world.told (.problem ⟨severity, finding⟩), handler, l.records ++ records⟩)

/-- Tells a handler of problems at once. -/
def teller : Loading.Teller σ (Hearing σ) := ⟨run, report⟩

theorem hearIn_bind (hearing : Hearing σ α) (next : α → Hearing σ β) (l : Listening σ) :
    hearIn (hearing >>= next) l =
      match hearIn hearing l with
      | (.ok a, l') => hearIn (next a) l'
      | (.error f, l') => (.error f, l') := by
  simp only [hearIn, ExceptT.run_bind, StateT.run_bind]
  rcases StateT.run (ExceptT.run hearing) l with ⟨_ | _, l'⟩ <;> rfl

/-- What is heard at once is what the handler would hear of the story; and if it did not refuse to go
on, the world is that of the story, too. -/
def Follows (hearing : Hearing σ α) (story : Run σ α) : Prop :=
  ∀ l : Listening σ, ∃ told w,
    (runIn story l.world).2.events = l.world.events ++ told ∧
    hearIn hearing l = ((l.handler.attend told (runIn story l.world).1).outcome,
      ⟨w, (l.handler.attend told (runIn story l.world).1).handler,
        l.records ++ (l.handler.attend told (runIn story l.world).1).records⟩) ∧
    ((l.handler.hearAll told).outcome = .ok () → w = (runIn story l.world).2)

namespace Follows

theorem pure (a : α) : Follows (Pure.pure a : Hearing σ α) (Pure.pure a) := by
  intro l
  refine ⟨[], l.world, (List.append_nil _).symm, ?_, fun _ => rfl⟩
  change (_, l) = _
  simp only [Handler.attend, Handler.hearAll, List.append_nil]
  rfl

theorem bind {hearing : Hearing σ α} {story : Run σ α} {next : α → Hearing σ β}
    {nextStory : α → Run σ β} (h : Follows hearing story)
    (hnext : ∀ a, Follows (next a) (nextStory a)) :
    Follows (hearing >>= next) (story >>= nextStory) := by
  intro l
  obtain ⟨told, w, hevents, hheard, hworld⟩ := h l
  rw [hearIn_bind, Run.runIn_bind, hheard]
  rcases hs : runIn story l.world with ⟨f | a, w₁⟩ <;> rw [hs] at hevents hworld
  · refine ⟨told, w, hevents, ?_, hworld⟩
    simp only [Handler.attend]
    cases (l.handler.hearAll told).outcome <;> rfl
  cases ho : (l.handler.hearAll told).outcome with
  | error f =>
    -- the handler has refused: what the story tells further on does not count
    obtain ⟨more, _, hmore, -⟩ := hnext a { l with world := w₁ }
    refine ⟨told ++ more, w, ?_, ?_, ?_⟩
    · rw [hmore, hevents, List.append_assoc]
    · simp only [Handler.attend, Handler.hearAll_append, ho]
      rfl
    · simp [Handler.hearAll_append, ho]
  | ok =>
    obtain rfl := hworld ho
    obtain ⟨more, w₂, hmore, hheard', hworld'⟩ := hnext a
      ⟨w, (l.handler.hearAll told).handler, l.records ++ (l.handler.hearAll told).records⟩
    refine ⟨told ++ more, w₂, ?_, ?_, ?_⟩
    · rw [hmore, hevents, List.append_assoc]
    · simp only [Handler.attend, ho, Handler.hearAll_append] at hheard' ⊢
      rw [← List.append_assoc]
      exact hheard'
    · simpa [Handler.hearAll_append, ho] using hworld'

/-- A run that only writes records. -/
theorem run {action : Run σ α} (h : Within .onlyRecords action) :
    Follows (teller.run action) (Loading.Teller.story.run action) := by
  intro l
  obtain ⟨records, hrecords⟩ := h l.world
  refine ⟨_, _, hrecords, ?_, fun _ => rfl⟩
  change ((runIn action l.world).1, Listening.mk (runIn action l.world).2 l.handler (l.records ++
    Run.records ((runIn action l.world).2.events.drop l.world.events.length))) = _
  rw [hrecords, List.drop_left, Run.records_logged, Handler.attend, Handler.hearAll_logged]
  rfl

theorem report (severity : Severity) (finding : Finding) :
    Follows (σ := σ) (teller.report severity finding) (Loading.Teller.story.report severity finding) := by
  intro l
  refine ⟨[.problem ⟨severity, finding⟩], l.world.told (.problem ⟨severity, finding⟩), rfl, ?_,
    fun _ => rfl⟩
  change ((l.handler.hear ⟨severity, finding⟩).2.2, Listening.mk _
    (l.handler.hear ⟨severity, finding⟩).1 (l.records ++ (l.handler.hear ⟨severity, finding⟩).2.1)) = _
  rw [Handler.attend, Handler.hearAll]
  rcases l.handler.hear ⟨severity, finding⟩ with ⟨h, records, f | _⟩
  · rfl
  · simp only [Handler.hearAll, List.append_nil]
    rfl

theorem forM {items : List β} {hearing : β → Hearing σ Unit} {story : β → Run σ Unit}
    (h : ∀ b, Follows (hearing b) (story b)) : Follows (items.forM hearing) (items.forM story) := by
  induction items with
  | nil => exact pure ()
  | cons b items ih =>
    exact bind (h b) fun _ => ih

end Follows

end Hearing

/-! ### Loading -/

namespace Loading

open Hearing (Follows)

variable {σ : Type} {l : DocumentLoader σ} (hr : ∀ r ∈ l.resolver, r.loader.Within .onlyRecords)

include hr

theorem resolved_within (publicId systemId : Option Text) :
    Within .onlyRecords (resolved l.resolver publicId systemId) := by
  cases hresolver : l.resolver with
  | none => exact .pure _
  | some r => exact SchemaResolver.resolve_within (hr r hresolver) (fun _ _ => ⟨[], by simp⟩) _ _

theorem readDocument_follows (mode : Mode) (source : InputSource) :
    Follows (readDocument Hearing.teller l mode source) (readDocument .story l mode source) := by
  have htake : Within (σ := σ) .onlyRecords source.take := .askFiles _
  refine .bind (.run htake) fun bytes =>
    .bind (.run (asking_holds (Run.within _) (resolved_within hr) _)) fun outcome => ?_
  cases outcome with
  | ok d => exact .pure _
  | error f => exact .bind (.report _ _) fun _ => .run (.throw _)

omit hr in
theorem reportFlaws_follows (j : Xml.Judgement) :
    Follows (σ := σ) (reportFlaws Hearing.teller j) (reportFlaws .story j) :=
  .forM fun _ => .report _ _

omit hr in
theorem validateByDoctype_follows (e : Xml.Engine) (d : Xml.Document) :
    Follows (σ := σ) (validateByDoctype Hearing.teller e d) (validateByDoctype .story e d) := by
  rw [validateByDoctype, validateByDoctype]
  split
  · exact .report _ _
  · exact reportFlaws_follows _

theorem validateBySchema_follows (d : Xml.Document) :
    Follows (validateBySchema Hearing.teller l d) (validateBySchema .story l d) := by
  rw [validateBySchema, validateBySchema]
  refine .bind (.run ((Run.within _).forM (fun r w => Frame.onlyRecords.logged w r) _)) fun _ => ?_
  split
  · exact .report _ _
  · refine .bind (.run (resolved_within hr _ _)) fun source => ?_
    cases source with
    | none => exact .report _ _
    | some source =>
      exact .bind (.run (readSchema_holds (Run.within _) (resolved_within hr) _ _)) fun _ =>
        reportFlaws_follows _

/-- A handler that is told of problems as they come up makes of loading what it would make of the story
of it. -/
theorem load_follows (mode : Mode) (isNamespaceAware : Bool) (source : InputSource) :
    Follows (loadTelling Hearing.teller l mode isNamespaceAware source)
      (load l mode isNamespaceAware source) := by
  have hvalidate : ∀ d, Follows (validate Hearing.teller l mode d)
      (validate .story l mode d) := fun d => by
    cases mode with
    | dtd => exact validateByDoctype_follows _ d
    | xsd => exact validateBySchema_follows hr d
    | none | auto => exact .pure _
  exact .bind (.run (.log _ _ _)) fun _ => .bind (readDocument_follows hr mode source) fun d =>
    .bind (hvalidate d) fun _ => .bind (.run ((Run.within _).ofExcept _)) fun _ =>
      .bind (.run (.log _ _ _)) fun _ => .pure _

omit hr in
/-- Loads a document for a handler, which is told of each problem as it comes up; for a strict one if
none is given. -/
def loadFor (handler : Option Handler) (l : DocumentLoader σ) (mode : Mode)
    (isNamespaceAware : Bool) (source : InputSource) (w : World σ) : Heard Xml.Document :=
  let (outcome, heard) :=
    (loadTelling Hearing.teller l mode isNamespaceAware source).hearIn ⟨w, handler.getD .strict, []⟩
  ⟨heard.handler, heard.records, outcome⟩

omit hr in
/-- What is told while a document is loaded. -/
def storyOf (l : DocumentLoader σ) (mode : Mode) (isNamespaceAware : Bool)
    (source : InputSource) (w : World σ) : List Event :=
  (runIn (load l mode isNamespaceAware source) w).2.events.drop w.events.length

variable (mode : Mode) (isNamespaceAware : Bool) (source : InputSource) (w : World σ)

theorem loadFor_eq_attend (handler : Option Handler) :
    loadFor handler l mode isNamespaceAware source w =
      (handler.getD .strict).attend (storyOf l mode isNamespaceAware source w)
        (runIn (load l mode isNamespaceAware source) w).1 := by
  obtain ⟨told, _, htold, hheard, -⟩ :=
    load_follows hr mode isNamespaceAware source ⟨w, handler.getD .strict, []⟩
  rw [loadFor, hheard, storyOf, htold, List.drop_left]
  rfl

/-- The strict handler and the collecting one hear the same story of loading a document. If what was
collected holds an error, the strict handler has stopped the loading at the first one. Otherwise both
make the same of the document, every problem was a warning, and the strict handler has logged each
where the collecting one has entered it. This is so with every engine; and of resource loaders only this
is asked, that they tell nothing but records. -/
theorem strict_hears_collected (name : Option Text) :
    let strict := loadFor none l mode isNamespaceAware source w
    let collected :=
      loadFor (some (.collector name)) l mode isNamespaceAware source w
    let told := storyOf l mode isNamespaceAware source w
    let outcome := (runIn (load l mode isNamespaceAware source) w).1
    (loadFor (some .strict) l mode isNamespaceAware source w = strict ∧
      strict = Handler.strict.attend told outcome ∧
      collected = (Handler.collector name).attend told outcome) ∧
    ∃ report, collected.handler = .collecting name report ∧
      report.entries = (problems told).map (Handler.entry name) ∧
      collected.records = Run.records told ∧
      (∀ e, report.entries.find? Report.isError = some e →
        strict.outcome = .error (.invalid ⟨e.message, e.line, e.column⟩)) ∧
      (report.entries.find? Report.isError = none →
        strict.outcome = collected.outcome ∧
        (∀ e ∈ report.entries, e.severity = some Severity.warning.name) ∧
        strict.records = told.map Event.record) := by
  intro strict collected told outcome
  have hstrict : strict = Handler.strict.attend told outcome :=
    loadFor_eq_attend hr mode isNamespaceAware source w none
  have hcollected : collected = (Handler.collector name).attend told outcome :=
    loadFor_eq_attend hr mode isNamespaceAware source w (some (.collector name))
  refine ⟨⟨rfl, hstrict, hcollected⟩, ?_⟩
  have hall := Handler.hearAll_collecting name Report.empty told
  have hentries := Report.entries_foldl_add Report.empty ((problems told).map (Handler.entry name))
  rw [show Report.empty.entries = [] from rfl, List.nil_append] at hentries
  have hgrave := find?_isError_entries name (problems told)
  have hheard := Handler.hearAll_strict told
  rw [hstrict, hcollected, Handler.attend, Handler.attend, Handler.collector, hall]
  refine ⟨_, rfl, hentries, rfl, ?_, ?_⟩
  · intro e he
    rw [hentries, hgrave] at he
    obtain ⟨p, hp, rfl⟩ := Option.map_eq_some_iff.1 he
    rw [hp] at hheard
    dsimp only
    rw [hheard]
    rfl
  · intro hnone
    rw [hentries, hgrave, Option.map_eq_none_iff] at hnone
    rw [hnone] at hheard
    rw [hheard, hentries]
    exact ⟨rfl, severity_entries hnone name, rfl⟩

omit hr in
/-- A resolver that has no directory to search. -/
def nowhere : SchemaResolver Unit :=
  ⟨(DirectoryLoader.mk .plain [] DirectoryLoader.usualEncoding).toLoader, SchemaResolver.usualLocation⟩

omit hr in
/-- The engine that is brought along, which says of no bytes what parsers say. -/
def saysEmpty : Xml.Engine :=
  { Xml.Engine.builtIn with
    parse := fun a bytes =>
      if bytes.isEmpty then
        let wording : Text := "Document is empty, line 1, column 1"
        .done (.error ⟨some wording, wording, some 1⟩)
      else Xml.Engine.builtIn.parse a bytes }

omit hr in
/-- An empty document is refused on its first line, and both handlers say so. -/
theorem strict_hears_collected_of_empty :
    let l : DocumentLoader Unit := ⟨saysEmpty, true, some nowhere⟩
    let source := InputSource.ofBytes [] none none
    let w := World.start (FileSystem.empty ["W"]) ()
    (∀ r ∈ l.resolver, r.loader.Within .onlyRecords) ∧
      (loadFor none l .dtd true source w).outcome =
        .error (.invalid ⟨"Document is empty, line 1, column 1", some 1, none⟩) ∧
      ∃ report, (loadFor (some (.collector none)) l .dtd true source w).handler =
          .collecting none report ∧
        ∀ e, report.entries.find? Report.isError = some e →
          (loadFor none l .dtd true source w).outcome =
            .error (.invalid ⟨e.message, e.line, e.column⟩) := by
  intro l source w
  have hr : ∀ r ∈ l.resolver, r.loader.Within .onlyRecords := by
    intro r hmem
    obtain rfl := Option.mem_some.1 hmem
    exact DirectoryLoader.toLoader_within _
  obtain ⟨-, report, hreport, -, -, hfirst, -⟩ :=
    strict_hears_collected hr .dtd true source w none
  exact ⟨hr, rfl, report, hreport, hfirst⟩

end Loading

end SchemaGate
