import SchemaGate.Proofs.Encoding.Utf8
import SchemaGate.Proofs.Loading.Course

/-! What a report says of a document that was loaded.

    A collecting handler enters what is told on the way (`Course`), and nothing else. So a load leaves
    one kind of entries: none, one fatal one, one warning, or the errors that validation finds. Which of
    these they are tells how far loading came (`load_accounts`). They do not tell whether there is a
    document in the end: the cut of names comes behind validation, and what is left of a name is not
    always one (`warned_document_can_be_withheld`). -/

namespace SchemaGate

namespace Loading

open Xml
open Run (runIn)

variable {σ : Type}

/-- Something is missing that the document could be validated by: a document type, the location of a
schema, or something at that location. -/
def Unjudged (l : DocumentLoader σ) (mode : Mode) (d : Document) (w : World σ) : Prop :=
  (mode = .dtd ∧ d.prolog.doctype = none) ∨
    (mode = .xsd ∧ ∀ location, (schemaLocation d).1 = some location →
      (runIn (resolved l.resolver none (some location)) (seeking d w)).1 = .ok none)

/-- What is left of each name in a namespace is a name. -/
def LeavesPlainNames (d : Document) : Prop :=
  ∀ e ∈ d.root.heads, e.name.space ≠ none → isPlainName (Text.chars e.name.part) = true

/-- No namespace of an element holds a closing brace. -/
def HasSeparableNames (d : Document) : Prop := ∀ e ∈ d.root.heads, e.name.Separable

/-- There is nothing, one fatal problem, one warning, or nothing but errors. -/
def OfOneKind (problems : List Problem) : Prop :=
  problems = [] ∨ (∃ finding, problems = [⟨.fatal, finding⟩]) ∨
    (∃ finding, problems = [⟨.warning, finding⟩]) ∨
    ∃ first rest, problems = (first :: rest).map (⟨.error, ·⟩)

/-- Problems that were entered account for a load of a document from bytes, and for how it ended. -/
structure Accounts (l : DocumentLoader σ) (mode : Mode) (isNamespaceAware : Bool) (source : InputSource)
    (bytes : Bytes) (w : World σ) (added : List Problem)
    (outcome : Except Failure Document) : Prop where
  course : ∃ document, Course l mode source bytes w added document ∧
    outcome = document >>= finished mode isNamespaceAware
  ofOneKind : OfOneKind added
  rejected_iff : (∃ finding, ⟨.fatal, finding⟩ ∈ added) ↔
    ∃ f, (parse l mode source bytes w).1 = .ok (.error f)
  /-- The failure repeats the fatal problem. -/
  rejected : ∀ finding, ⟨.fatal, finding⟩ ∈ added →
    outcome = .error (.document ⟨finding.message, source.systemId, finding.line⟩)
  warned_iff : (∃ finding, ⟨.warning, finding⟩ ∈ added) ↔
    ∃ d w₁, parse l mode source bytes w = (.ok (.ok d), w₁) ∧ Unjudged l mode d w₁
  /-- What validation says never stands in the way of the document. -/
  judged : ∀ p ∈ added, p.severity ≠ .fatal →
    ∃ d, (parse l mode source bytes w).1 = .ok (.ok d) ∧
      outcome = finished mode isNamespaceAware d
  silent : mode = .none ∨ mode = .auto →
    ∀ d, (parse l mode source bytes w).1 = .ok (.ok d) →
      added = [] ∧ outcome = finished mode isNamespaceAware d
  failed : ∀ f, outcome = .error f →
    (∃ finding, added = [⟨.fatal, finding⟩]) ∨
    (added = [] ∧ FromResolver l.resolver f) ∨
    (added = [] ∧ mode = .xsd ∧ ∃ d location, (parse l mode source bytes w).1 = .ok (.ok d) ∧
      (schemaLocation d).1 = some location ∧ ∃ reason, f = notASchema location reason) ∨
    ∃ d, (parse l mode source bytes w).1 = .ok (.ok d) ∧
      finished mode isNamespaceAware d = .error f
  /-- Documents are withheld for the sake of a name. -/
  finished_iff : ∀ d, (parse l mode source bytes w).1 = .ok (.ok d) → HasSeparableNames d →
    ((∃ d', finished mode isNamespaceAware d = .ok d') ↔
      (isNamespaceAware = true ∨ mode = .xsd) ∨ LeavesPlainNames d) ∧
    ∀ f, finished mode isNamespaceAware d = .error f →
      ∃ e ∈ d.root.heads, e.name.space ≠ none ∧ isPlainName (Text.chars e.name.part) = false ∧
        f = .invalidTag e.name.part

/-! ### Ways of loading -/

section

variable {l : DocumentLoader σ} {mode : Mode} {d : Document} {w w₁ : World σ}
  {told : List Problem} {outcome : Except Failure Unit} {source : InputSource} {bytes : Bytes}
  {document : Except Failure Document}

theorem ofOneKind_map_error {α : Type} (finding : α → Finding) (items : List α) :
    OfOneKind (items.map fun a => ⟨.error, finding a⟩) := by
  cases items with
  | nil => exact .inl rfl
  | cons a items =>
    exact .inr (.inr (.inr ⟨finding a, items.map finding, by simp [Function.comp_def]⟩))

theorem Validation.ofOneKind (h : Validation l d w mode told outcome) : OfOneKind told := by
  cases h with
  | unwanted | failed | interrupted | noSchema => exact .inl rfl
  | noDoctype | noLocation | unresolved => exact .inr (.inr (.inl ⟨_, rfl⟩))
  | byDoctype | bySchema => exact ofOneKind_map_error _ _

theorem Validation.not_fatal (h : Validation l d w mode told outcome) (finding : Finding) :
    ⟨.fatal, finding⟩ ∉ told := by
  cases h <;> simp

/-- A warning stands for what is missing. -/
theorem Validation.warned_iff (h : Validation l d w mode told outcome) :
    (∃ finding, ⟨.warning, finding⟩ ∈ told) ↔ Unjudged l mode d w := by
  cases h with
  | unwanted hmode => rcases hmode with rfl | rfl <;> simp [Unjudged]
  | noDoctype hdoctype => simp [Unjudged, hdoctype]
  | byDoctype hsubset =>
    have hdoctype : d.prolog.doctype ≠ none := fun hnone => by simp [validatingSubset?, hnone] at hsubset
    simp [Unjudged, hdoctype]
  | noLocation hlocation => simp [Unjudged, hlocation]
  | unresolved hlocation hresolved => simp [Unjudged, hlocation, hresolved]
  | failed hlocation hresolved => simp [Unjudged, hlocation, hresolved]
  | interrupted hlocation hresolved | noSchema hlocation hresolved | bySchema hlocation hresolved =>
    simp [Unjudged, hlocation, hresolved]

theorem Course.ofOneKind (h : Course l mode source bytes w told document) : OfOneKind told := by
  cases h with
  | interrupted => exact .inl rfl
  | rejected => exact .inr (.inl ⟨_, rfl⟩)
  | validated _ hvalidation => exact hvalidation.ofOneKind

theorem Course.rejected_iff (h : Course l mode source bytes w told document) :
    (∃ finding, ⟨.fatal, finding⟩ ∈ told) ↔
      ∃ f, (parse l mode source bytes w).1 = .ok (.error f) := by
  cases h with
  | interrupted hparsed => simp [hparsed]
  | rejected hparsed => simp [hparsed]
  | validated hparsed hvalidation => simp [hparsed, hvalidation.not_fatal]

theorem Course.warned_iff (h : Course l mode source bytes w told document) :
    (∃ finding, ⟨.warning, finding⟩ ∈ told) ↔
      ∃ d w₁, parse l mode source bytes w = (.ok (.ok d), w₁) ∧ Unjudged l mode d w₁ := by
  cases h with
  | interrupted hparsed => simp [hparsed]
  | rejected hparsed => simp [hparsed]
  | validated hparsed hvalidation =>
    rw [hvalidation.warned_iff, hparsed]
    constructor
    · intro hunjudged
      exact ⟨_, _, rfl, hunjudged⟩
    · rintro ⟨_, _, heq, hunjudged⟩
      cases heq
      exact hunjudged

/-- The fatal problem of a document that is rejected is repeated by the failure. -/
theorem Course.of_fatal (h : Course l mode source bytes w told document) {finding : Finding}
    (hfatal : ⟨.fatal, finding⟩ ∈ told) :
    document = .error (.document ⟨finding.message, source.systemId, finding.line⟩) := by
  cases h with
  | interrupted => cases hfatal
  | rejected =>
    cases List.mem_singleton.1 hfatal
    rfl
  | validated _ hvalidation => exact absurd hfatal (hvalidation.not_fatal finding)

/-- A document of which something else is told goes on to be handed out. -/
theorem Course.of_not_fatal (h : Course l mode source bytes w told document) {p : Problem}
    (hp : p ∈ told) (hnot : p.severity ≠ .fatal) :
    ∃ d, (parse l mode source bytes w).1 = .ok (.ok d) ∧ document = .ok d := by
  cases h with
  | interrupted => cases hp
  | rejected =>
    cases List.mem_singleton.1 hp
    exact absurd rfl hnot
  | @validated d _ outcome _ hparsed hvalidation =>
    cases outcome with
    | error f =>
      rw [hvalidation.of_error.1] at hp
      cases hp
    | ok => exact ⟨d, congrArg Prod.fst hparsed, rfl⟩

theorem Course.of_silent (h : Course l mode source bytes w told document)
    (hmode : mode = .none ∨ mode = .auto) (hparsed : (parse l mode source bytes w).1 = .ok (.ok d)) :
    told = [] ∧ document = .ok d := by
  cases h with
  | interrupted hparsed' | rejected hparsed' =>
    rw [hparsed'] at hparsed
    cases hparsed
  | validated hparsed' hvalidation =>
    rw [hparsed'] at hparsed
    cases hparsed
    cases hvalidation with
    | unwanted => exact ⟨rfl, rfl⟩
    | _ => rcases hmode with hmode | hmode <;> cases hmode

theorem Course.of_ok (h : Course l mode source bytes w told (.ok d)) :
    (parse l mode source bytes w).1 = .ok (.ok d) := by
  generalize hdocument : Except.ok d = document at h
  cases h with
  | interrupted | rejected => cases hdocument
  | @validated d' _ outcome _ hparsed _ =>
    cases outcome with
    | error => cases hdocument
    | ok =>
      cases hdocument
      exact congrArg Prod.fst hparsed

/-- The failures of loading before the document is handed out. -/
theorem Course.of_error (h : Course l mode source bytes w told document) {f : Failure}
    (hf : document = .error f) :
    (∃ finding, told = [⟨.fatal, finding⟩]) ∨
    (told = [] ∧ FromResolver l.resolver f) ∨
    (told = [] ∧ mode = .xsd ∧ ∃ d location, (parse l mode source bytes w).1 = .ok (.ok d) ∧
      (schemaLocation d).1 = some location ∧ ∃ reason, f = notASchema location reason) := by
  cases h with
  | interrupted hparsed =>
    cases hf
    exact .inr (.inl ⟨rfl, asking_fails l _ _ _ (congrArg Prod.fst hparsed)⟩)
  | rejected => exact .inl ⟨_, rfl⟩
  | @validated d _ outcome _ hparsed hvalidation =>
    cases outcome with
    | ok => cases hf
    | error g =>
      cases hf
      obtain ⟨htold, hmode, location, hlocation, hf | hf⟩ := hvalidation.of_error
      · exact .inr (.inr ⟨htold, hmode, d, location, congrArg Prod.fst hparsed, hlocation, hf⟩)
      · exact .inr (.inl ⟨htold, hf⟩)

/-- The elements of a document that was parsed have local names that can be told from their namespaces,
unless one of these holds a closing brace. -/
theorem cuttable_of_parse (hnames : l.engine.ReadsNames)
    (hparsed : (parse l mode source bytes w).1 = .ok (.ok d))
    (hseparable : HasSeparableNames d) : Node.Cuttable d.root.heads :=
  have hplain := hnames _ _ _ (Asking.yields_of_runIn (parse_eq hparsed))
  fun e he => ⟨hplain e he, hseparable e he⟩

end

/-! ### Handing out -/

/-- A document is handed out unless the cut of its names leaves something else than names. -/
theorem exists_finished_iff (mode : Mode) (isNamespaceAware : Bool) {d : Document}
    (hcut : Node.Cuttable d.root.heads) :
    (∃ d', finished mode isNamespaceAware d = .ok d') ↔
      (isNamespaceAware = true ∨ mode = .xsd) ∨ LeavesPlainNames d := by
  have hfinishes : Finishes mode isNamespaceAware d ↔
      (isNamespaceAware = true ∨ mode = .xsd) ∨ LeavesPlainNames d :=
    or_congr_right (Node.leavesNames_iff hcut)
  rw [← hfinishes]
  rcases finished_outcomes mode isNamespaceAware d with ⟨hall, hok⟩ | ⟨hnot, part, herror⟩
  · exact iff_of_true hok hall
  · exact iff_of_false (by simp [herror]) hnot

/-- It is withheld for the sake of a name that is none without its namespace. -/
theorem exists_invalidTag_of_finished {mode : Mode} {isNamespaceAware : Bool} {d : Document} {f : Failure}
    (hcut : Node.Cuttable d.root.heads) (h : finished mode isNamespaceAware d = .error f) :
    ∃ e ∈ d.root.heads, e.name.space ≠ none ∧ isPlainName (Text.chars e.name.part) = false ∧
      f = .invalidTag e.name.part := by
  rw [finished] at h
  split at h
  · cases h
  · cases hroot : d.root.withoutNamespaces with
    | ok root =>
      rw [hroot] at h
      cases h
    | error g =>
      rw [hroot] at h
      cases h
      exact Node.exists_invalidTag hcut hroot

theorem Course.accounts {l : DocumentLoader σ} (hnames : l.engine.ReadsNames) {mode : Mode}
    {source : InputSource} {bytes : Bytes} {w : World σ} {told : List Problem}
    {document : Except Failure Document} (h : Course l mode source bytes w told document)
    (isNamespaceAware : Bool) :
    Accounts l mode isNamespaceAware source bytes w told
      (document >>= finished mode isNamespaceAware) where
  course := ⟨document, h, rfl⟩
  ofOneKind := h.ofOneKind
  rejected_iff := h.rejected_iff
  rejected finding hfatal := by
    rw [h.of_fatal hfatal]
    rfl
  warned_iff := h.warned_iff
  judged p hp hnot := by
    obtain ⟨d, hparsed, rfl⟩ := h.of_not_fatal hp hnot
    exact ⟨d, hparsed, rfl⟩
  silent hmode d hparsed := by
    obtain ⟨htold, rfl⟩ := h.of_silent hmode hparsed
    exact ⟨htold, rfl⟩
  failed f hf := by
    cases hdocument : document with
    | error g =>
      rw [hdocument] at hf
      cases hf
      rcases h.of_error hdocument with hrejected | hinterrupted | hschema
      · exact .inl hrejected
      · exact .inr (.inl hinterrupted)
      · exact .inr (.inr (.inl hschema))
    | ok d =>
      subst hdocument
      exact .inr (.inr (.inr ⟨d, h.of_ok, hf⟩))
  finished_iff d hparsed hseparable :=
    have hcut := cuttable_of_parse hnames hparsed hseparable
    ⟨exists_finished_iff mode isNamespaceAware hcut, fun _ hf => exists_invalidTag_of_finished hcut hf⟩

/-! ### Reports -/

/-- A collecting handler has entered what accounts for the load, behind what it had entered before. This
is so with every engine that reads no braces in names; and of resource loaders only this is asked, that
they tell nothing but records. -/
theorem load_accounts {l : DocumentLoader σ} (hnames : l.engine.ReadsNames)
    (hr : ∀ r ∈ l.resolver, r.loader.Within .onlyRecords) (mode : Mode) (isNamespaceAware : Bool)
    {source : InputSource} {content : StreamContent} (hopen : source.stream = some ⟨content, false⟩)
    (w : World σ) (name : Option Text) (report : Report) :
    let heard := loadFor (some (.collecting name report)) l mode isNamespaceAware source w
    ∃ bytes added after, (source.read w.files).1 = .ok bytes ∧
      heard.handler = .collecting name after ∧
      after = (added.map (Handler.entry name)).foldl Report.add report ∧
      after.entries = report.entries ++ added.map (Handler.entry name) ∧
      Accounts l mode isNamespaceAware source bytes w added heard.outcome := by
  intro heard
  obtain ⟨bytes, hread⟩ : ∃ bytes, (source.read w.files).1 = .ok bytes := by
    rw [InputSource.read, hopen]
    cases content <;> exact ⟨_, rfl⟩
  obtain ⟨added, document, hcourse, hcomes⟩ := exists_course hr mode hread
  obtain ⟨w', hcomes⟩ := hcomes isNamespaceAware
  obtain ⟨hhandler, houtcome⟩ := loadFor_of_comes hr hcomes (some (.collecting name report))
  rw [Option.getD_some, Handler.heed_collecting] at hhandler houtcome
  have houtcome : heard.outcome = document >>= finished mode isNamespaceAware := houtcome
  rw [houtcome]
  exact ⟨bytes, added, _, hread, hhandler, rfl, Report.entries_foldl_add _ _,
    hcourse.accounts hnames isNamespaceAware⟩

/-- A document in memory that a text spells. -/
def spelled (text : String) : InputSource := .ofBytes (Utf8.encode text.toList) none none

/-- What documents are loaded with where there is nothing else. -/
def alone : DocumentLoader Unit := ⟨.builtIn, true, some nowhere⟩

theorem loader_nowhere : ∀ r ∈ some nowhere, r.loader.Within .onlyRecords := directories_within _ _

/-- A world with nothing in it. -/
def bare : World Unit := World.start (FileSystem.empty ["W"]) ()

/-- An element that was declared empty and is not. -/
def fullElement : String := "<!DOCTYPE a [<!ELEMENT a EMPTY>]>\n<a>x</a>"

/-- What is said of it. -/
def fullFinding : Finding := ⟨"Element a was declared EMPTY this one has content", some 2, some 0⟩

/-- The engine that is brought along, which says so. -/
def saysFull : Engine :=
  { Engine.builtIn with
    judge := fun s d =>
      let j := Engine.builtIn.judge s d
      { j with log := j.log.map fun f => { f with message := fullFinding.message } } }

theorem readsNames_saysFull : saysFull.ReadsNames := Engine.readsNames_builtIn

theorem flaws_fullElement :
    (parsed? { alone with engine := saysFull } .dtd (spelled fullElement) (Utf8.encode fullElement.toList)
        bare).bind (fun d => (validatingSubset? d).map fun s => (saysFull.judge s d).flaws) =
      some [fullFinding] := by
  decide +kernel

/-- The one flaw of a document is entered with its message and its place. -/
theorem load_accounts_fullElement :
    let l := { alone with engine := saysFull }
    let source := spelled fullElement
    let heard := loadFor (some (.collector none)) l .dtd true source bare
    l.engine.ReadsNames ∧ (∀ r ∈ l.resolver, r.loader.Within .onlyRecords) ∧
      source.stream = some ⟨.bytes (Utf8.encode fullElement.toList), false⟩ ∧
      ∃ bytes report, Accounts l .dtd true source bytes bare [⟨.error, fullFinding⟩] heard.outcome ∧
        heard.handler = .collecting none report ∧
        report.entries = [Handler.entry none ⟨.error, fullFinding⟩] := by
  intro l source heard
  have hopen : source.stream = some ⟨.bytes (Utf8.encode fullElement.toList), false⟩ := rfl
  obtain ⟨bytes, added, report, hread, hheard, -, hentries, haccounts⟩ :=
    load_accounts (l := l) readsNames_saysFull loader_nowhere .dtd true hopen bare none Report.empty
  obtain rfl : Utf8.encode fullElement.toList = bytes := Except.ok.inj hread
  obtain ⟨d, hd, hflaws⟩ := Option.bind_eq_some_iff.1 flaws_fullElement
  have hparsed := parse_of_parsed? hd
  obtain ⟨subset, hsubset, hflaws⟩ := Option.map_eq_some_iff.1 hflaws
  obtain rfl : added = [⟨.error, fullFinding⟩] := by
    obtain ⟨document, hcourse, -⟩ := haccounts.course
    cases hcourse with
    | interrupted hparsed' | rejected hparsed' =>
      rw [hparsed'] at hparsed
      cases hparsed
    | validated hparsed' hvalidation =>
      rw [hparsed'] at hparsed
      cases hparsed
      cases hvalidation with
      | unwanted hmode => rcases hmode with hmode | hmode <;> cases hmode
      | noDoctype hdoctype => simp [validatingSubset?, hdoctype] at hsubset
      | byDoctype hsubset' =>
        cases hsubset.symm.trans hsubset'
        exact congrArg (List.map (Problem.mk .error)) hflaws
  exact ⟨readsNames_saysFull, loader_nowhere, hopen, _, report, haccounts, hheard, hentries⟩

/-! ### A name that is one only in a namespace -/

/-- A document whose only element is called `:a`, in a namespace with a relative address. The colon is
complained of, and so is the address, though only by a warning. As the last complaint counts, the document
is accepted. -/
def colonTag : String := "<:a xmlns=\"u\"/>"

/-- Has a document no document type, what are the namespaces of its elements, and what is it that is left
of a name without being one? -/
def remains (d : Document) : Bool × List (Option Text) × Option Text :=
  (d.prolog.doctype.isNone, d.root.heads.map (·.name.space),
    match d.root.withoutNamespaces with
    | .error (.invalidTag name) => some name
    | _ => none)

theorem remains_colonTag (mode : Mode) :
    (parsed? alone mode (spelled colonTag) (Utf8.encode colonTag.toList) bare).map remains =
      some (true, [some ("u" : Text)], some (":a" : Text)) := by
  cases mode <;> decide +kernel

theorem exists_colonDocument (mode : Mode) :
    ∃ d, (parse alone mode (spelled colonTag) (Utf8.encode colonTag.toList) bare).1 = .ok (.ok d) ∧
      HasSeparableNames d ∧ d.prolog.doctype = none ∧
      d.root.withoutNamespaces = .error (.invalidTag ":a") := by
  obtain ⟨d, hd, hremains⟩ := Option.map_eq_some_iff.1 (remains_colonTag mode)
  obtain ⟨hdoctype, hremains⟩ := Prod.mk.inj hremains
  obtain ⟨hspaces, hleft⟩ := Prod.mk.inj hremains
  refine ⟨d, parse_of_parsed? hd, fun e he u hu => ?_, Option.isNone_iff_eq_none.1 hdoctype, ?_⟩
  · have hspace : some u ∈ d.root.heads.map (·.name.space) := List.mem_map.2 ⟨e, he, hu⟩
    rw [hspaces, List.mem_singleton, Option.some_inj] at hspace
    rw [hspace]
    decide
  · split at hleft
    · next h =>
      cases hleft
      exact h
    · cases hleft

/-- A document is warned about and withheld nevertheless. -/
theorem warned_document_can_be_withheld :
    let heard := loadFor (some (.collector none)) alone .dtd false (spelled colonTag) bare
    ∃ d report, (parse alone .dtd (spelled colonTag) (Utf8.encode colonTag.toList) bare).1 = .ok (.ok d) ∧
      HasSeparableNames d ∧ heard.handler = .collecting none report ∧
      report.entries = [Handler.entry none ⟨.warning, noDoctype .builtIn d⟩] ∧
      heard.outcome = .error (.invalidTag ":a") := by
  intro heard
  obtain ⟨d, hparsed, hnames, hdoctype, hcut⟩ := exists_colonDocument .dtd
  obtain ⟨told, hvalidation, hcomes⟩ := exists_judged loader_nowhere (by decide) rfl (parse_eq hparsed)
  obtain ⟨w', hcomes⟩ := hcomes false
  obtain ⟨hhandler, houtcome⟩ := loadFor_of_comes loader_nowhere hcomes (some (.collector none))
  rw [Option.getD_some, Handler.collector, Handler.heed_collecting] at hhandler houtcome
  obtain rfl : told = [⟨.warning, noDoctype .builtIn d⟩] := by
    cases hvalidation with
    | unwanted hmode => rcases hmode with hmode | hmode <;> cases hmode
    | noDoctype => rfl
    | byDoctype hsubset => simp [validatingSubset?, hdoctype] at hsubset
  refine ⟨d, _, hparsed, hnames, hhandler, ?_, ?_⟩
  · rw [Report.entries_foldl_add]
    rfl
  · refine houtcome.trans ?_
    change finished .dtd false d = _
    rw [finished, hcut]
    rfl

end Loading

end SchemaGate
