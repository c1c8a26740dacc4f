import SchemaGate.Proofs.Loading.Ending

/-! The ways in which a document is loaded.

    Loading parses a document, validates it as the mode wants, and hands it out. What is told on the way
    follows from how far it comes: the ways in which a document is validated are `Validation`, those in
    which it is loaded are `Course`, and loading always takes one of them, whether namespaces are kept or
    not (`exists_course`). Of what is told a handler heeds the problems only, in their order
    (`loadFor_of_comes`). -/

namespace SchemaGate

open Run (runIn runIn_bind Within)

namespace Run

variable {σ α β : Type}

/-! ### What runs tell -/

/-- A run ends in a world, and these problems are told on the way. -/
structure Comes (action : Run σ α) (w : World σ) (outcome : Except Failure α) (told : List Problem)
    (w' : World σ) : Prop where
  runs : runIn action w = (outcome, w')
  tells : ∃ events, w'.events = w.events ++ events ∧ problems events = told

namespace Comes

variable {action : Run σ α} {w w₁ w₂ : World σ} {told more : List Problem}

theorem pure (a : α) (w : World σ) : Comes (Pure.pure a : Run σ α) w (.ok a) [] w :=
  ⟨rfl, [], (List.append_nil _).symm, rfl⟩

theorem throw (f : Failure) (w : World σ) :
    Comes (MonadExcept.throw f : Run σ α) w (.error f) [] w :=
  ⟨rfl, [], (List.append_nil _).symm, rfl⟩

theorem tell (e : Event) (w : World σ) : Comes (Run.tell e) w (.ok ()) (problems [e]) (w.told e) :=
  ⟨rfl, [e], rfl, rfl⟩

theorem ofExcept (result : Except Failure α) (w : World σ) :
    Comes (Run.ofExcept result) w result [] w :=
  ⟨Run.runIn_ofExcept result w, [], (List.append_nil _).symm, rfl⟩

theorem askFiles {question : FileSystem → Except Failure α} {w : World σ} {outcome : Except Failure α}
    (h : question w.files = outcome) : Comes (Run.askFiles question) w outcome [] w :=
  ⟨by rw [Run.runIn_askFiles, h], [], (List.append_nil _).symm, rfl⟩

/-- What only writes records tells no problems. -/
theorem of_within (h : Within .onlyRecords action) (w : World σ) :
    Comes action w (runIn action w).1 [] (runIn action w).2 := by
  obtain ⟨records, hrecords⟩ := h w
  exact ⟨rfl, _, hrecords, problems_logged records⟩

theorem bind {next : α → Run σ β} {a : α} {outcome : Except Failure β}
    (h : Comes action w (.ok a) told w₁) (hnext : Comes (next a) w₁ outcome more w₂) :
    Comes (action >>= next) w outcome (told ++ more) w₂ := by
  obtain ⟨hfirst, events, hevents, rfl⟩ := h
  obtain ⟨hsecond, events', hevents', rfl⟩ := hnext
  refine ⟨by rw [runIn_bind, hfirst]; exact hsecond, events ++ events', ?_, problems_append _ _⟩
  rw [hevents', hevents, List.append_assoc]

theorem bind_error {next : α → Run σ β} {f : Failure} (h : Comes action w (.error f) told w₁) :
    Comes (action >>= next) w (.error f) told w₁ :=
  ⟨by rw [runIn_bind, h.runs], h.tells⟩

/-- A result that is logged if it is well. -/
theorem ofExcept_logged (result : Except Failure α) (level : Level) (topic : Topic) (text : α → Text)
    (w : World σ) :
    ∃ w', Comes (Run.ofExcept result >>= fun a => Run.log level topic (text a) >>= fun _ => Pure.pure a) w
      result [] w' := by
  have hresult := ofExcept result w
  cases result with
  | error f => exact ⟨w, hresult.bind_error⟩
  | ok a => exact ⟨_, hresult.bind ((tell _ _).bind (pure _ _))⟩

/-- To report findings one after another tells each of them. -/
theorem reports (severity : Severity) (finding : β → Finding) (items : List β) (w : World σ) :
    ∃ w', Comes (items.forM fun b => Run.report severity (finding b)) w (.ok ())
      (items.map fun b => ⟨severity, finding b⟩) w' := by
  induction items generalizing w with
  | nil => exact ⟨w, .pure () w⟩
  | cons b items ih =>
    obtain ⟨w', hrest⟩ := ih (w.told (.problem ⟨severity, finding b⟩))
    exact ⟨w', (tell _ w).bind hrest⟩

end Comes

/-- A run fails, if it does, with a failure of a kind. -/
def Fails (P : Failure → Prop) (action : Run σ α) : Prop :=
  ∀ w f, (runIn action w).1 = .error f → P f

/-- Failing in ways of a kind only is a discipline. -/
def failing (σ : Type) (P : Failure → Prop) : Discipline (Run σ) where
  Holds := Fails P
  pure _ := nofun
  bind h hnext := by
    intro w f hf
    rcases runIn_bind_eq_error.1 hf with hfirst | ⟨a, w₁, -, hsecond⟩
    · exact h w f hfirst
    · exact hnext a w₁ f hsecond

end Run

namespace Handler

/-- Hears problems in their order, up to the first one it refuses to go on after: the handler afterwards,
and whether it goes on. -/
def heed : Handler → List Problem → Handler × Except Failure Unit
  | h, [] => (h, .ok ())
  | h, p :: rest =>
    match h.hear p with
    | (h, _, .error f) => (h, .error f)
    | (h, _, .ok ()) => h.heed rest

/-- Records that are told do not change what a handler makes of problems. -/
theorem hearAll_eq_heed (h : Handler) (events : List Event) :
    ((h.hearAll events).handler, (h.hearAll events).outcome) = h.heed (problems events) := by
  induction events generalizing h with
  | nil => rfl
  | cons e events ih =>
    cases e with
    | logged r => exact ih h
    | problem p =>
      rw [show problems (.problem p :: events) = p :: problems events from rfl, heed, hearAll]
      rcases h.hear p with ⟨h', records, f | _⟩
      · rfl
      · exact ih h'

/-- A collecting handler goes on after every problem and has entered each. -/
theorem heed_collecting (source : Option Text) (report : Report) (ps : List Problem) :
    (collecting source report).heed ps =
      (.collecting source ((ps.map (entry source)).foldl Report.add report), .ok ()) := by
  induction ps generalizing report with
  | nil => rfl
  | cons p ps ih => exact ih _

end Handler

namespace Loading

open Xml
open Run (Comes Fails)

variable {σ : Type}

/-! ### Resolvers -/

/-- Some request to the resolver fails in this way. -/
def FromResolver (resolver : Option (SchemaResolver σ)) (f : Failure) : Prop :=
  ∃ publicId systemId w, (runIn (resolved resolver publicId systemId) w).1 = .error f

/-- A resolver over directories tells nothing but records. -/
theorem directories_within (d : DirectoryLoader) (location : Text) :
    ∀ r ∈ some (⟨d.toLoader, location⟩ : SchemaResolver σ), r.loader.Within .onlyRecords := by
  intro r hr
  obtain rfl := Option.mem_some.1 hr
  exact d.toLoader_within

variable (l : DocumentLoader σ)

theorem fetch_fails (request : EntityRequest) : Fails (FromResolver l.resolver) (fetch l request) := by
  intro w f hf
  rcases Run.runIn_bind_eq_error.1 hf with hresolved | ⟨source, w₁, hresolved, hread⟩
  · exact ⟨_, _, _, hresolved⟩
  · cases source with
    | none => cases hread
    | some source =>
      obtain ⟨bytes, hbytes⟩ := holding_of_resolved hresolved
      change (runIn (Run.askFiles (fun fs => (source.read fs).1) >>= fun bytes => pure (some bytes)) w₁).1 =
        _ at hread
      rw [Run.outcome_askFiles_bind, hbytes] at hread
      cases hread

/-- Only the resolver can interrupt an engine. -/
theorem asking_fails {α : Type} (x : Asking α) : Fails (FromResolver l.resolver) (x.run (fetch l)) :=
  Asking.run_holds (Run.failing σ (FromResolver l.resolver)) (fetch_fails l) x

/-! ### Schemas -/

/-- The judge that the schema makes which bytes at a location spell, or why they make none. -/
def schemaAt (location : Text) (bytes : Bytes) : Run σ (Except Text (Document → Judgement)) := do
  let a : Approach := ⟨false, l.isOffline, some location⟩
  match ← (l.engine.parse a bytes).run (fetch l) with
  | .error f => return .error f.shown
  | .ok d => (l.engine.compile a d).run (fetch l)

theorem schemaAt_fails (location : Text) (bytes : Bytes) :
    Fails (FromResolver l.resolver) (schemaAt l location bytes) := by
  let D := Run.failing σ (FromResolver l.resolver)
  refine D.bind (asking_fails l _) fun outcome => ?_
  cases outcome with
  | error f => exact D.pure _
  | ok d => exact asking_fails l _

/-- A schema is read from a source, unless its bytes spell none. -/
theorem readSchema_eq (location : Text) (source : InputSource) :
    readSchema l location source = (do
      let bytes ← source.take
      match ← schemaAt l location bytes with
      | .error reason => throw (notASchema location reason)
      | .ok judge => return judge) := by
  rw [readSchema]
  refine congrArg _ (funext fun bytes => ?_)
  rw [schemaAt, bind_assoc]
  refine congrArg _ (funext fun outcome => ?_)
  cases outcome with
  | error f => simp only [pure_bind]
  | ok d => rfl

/-! ### Validation -/

/-- The world in which the schema of a document is sought: complaints about the way in which it is named
have been told. -/
def seeking (d : Document) (w : World σ) : World σ := w.toldAll ((schemaLocation d).2.map .logged)

/-- The ways in which a document is validated in a mode: what is told, and how it ends. -/
inductive Validation (d : Document) (w : World σ) :
    Mode → List Problem → Except Failure Unit → Prop where
  | unwanted {mode : Mode} (hmode : mode = .none ∨ mode = .auto) : Validation d w mode [] (.ok ())
  /-- There is neither an external subset nor an internal one. -/
  | noDoctype (hdoctype : d.prolog.doctype = none) :
    Validation d w .dtd [⟨.warning, noDoctype l.engine d⟩] (.ok ())
  | byDoctype {subset : Subset} (hsubset : validatingSubset? d = some subset) :
    Validation d w .dtd ((l.engine.judge subset d).flaws.map fun f => ⟨.error, f⟩) (.ok ())
  | noLocation (hlocation : (schemaLocation d).1 = none) :
    Validation d w .xsd [⟨.warning, noLocation d⟩] (.ok ())
  | unresolved {location : Text} {w₁ : World σ} (hlocation : (schemaLocation d).1 = some location)
    (hresolved : runIn (resolved l.resolver none (some location)) (seeking d w) = (.ok none, w₁)) :
    Validation d w .xsd [⟨.warning, unresolved location⟩] (.ok ())
  | failed {location : Text} {f : Failure} {w₁ : World σ}
    (hlocation : (schemaLocation d).1 = some location)
    (hresolved : runIn (resolved l.resolver none (some location)) (seeking d w) = (.error f, w₁)) :
    Validation d w .xsd [] (.error f)
  /-- The resolver fails where the schema needs more documents. -/
  | interrupted {location : Text} {s : InputSource} {bytes : Bytes} {f : Failure} {w₁ w₂ : World σ}
    (hlocation : (schemaLocation d).1 = some location)
    (hresolved : runIn (resolved l.resolver none (some location)) (seeking d w) = (.ok (some s), w₁))
    (hread : (s.read w₁.files).1 = .ok bytes)
    (hschema : runIn (schemaAt l location bytes) w₁ = (.error f, w₂)) :
    Validation d w .xsd [] (.error f)
  | noSchema {location reason : Text} {s : InputSource} {bytes : Bytes} {w₁ w₂ : World σ}
    (hlocation : (schemaLocation d).1 = some location)
    (hresolved : runIn (resolved l.resolver none (some location)) (seeking d w) = (.ok (some s), w₁))
    (hread : (s.read w₁.files).1 = .ok bytes)
    (hschema : runIn (schemaAt l location bytes) w₁ = (.ok (.error reason), w₂)) :
    Validation d w .xsd [] (.error (notASchema location reason))
  | bySchema {location : Text} {s : InputSource} {bytes : Bytes} {judge : Document → Judgement}
    {w₁ w₂ : World σ} (hlocation : (schemaLocation d).1 = some location)
    (hresolved : runIn (resolved l.resolver none (some location)) (seeking d w) = (.ok (some s), w₁))
    (hread : (s.read w₁.files).1 = .ok bytes)
    (hschema : runIn (schemaAt l location bytes) w₁ = (.ok (.ok judge), w₂)) :
    Validation d w .xsd ((judge d).flaws.map fun f => ⟨.error, f⟩) (.ok ())

variable {l}

/-- Validation fails only where it needs a schema: what is at the location of the schema is none, or the
resolver fails. Then nothing is told. -/
theorem Validation.of_error {d : Document} {w : World σ} {mode : Mode} {told : List Problem} {f : Failure}
    (h : Validation l d w mode told (.error f)) :
    told = [] ∧ mode = .xsd ∧ ∃ location, (schemaLocation d).1 = some location ∧
      ((∃ reason, f = notASchema location reason) ∨ FromResolver l.resolver f) := by
  cases h with
  | failed hlocation hresolved =>
    exact ⟨rfl, rfl, _, hlocation, .inr ⟨_, _, _, congrArg Prod.fst hresolved⟩⟩
  | interrupted hlocation _ _ hschema =>
    exact ⟨rfl, rfl, _, hlocation, .inr (schemaAt_fails l _ _ _ _ (congrArg Prod.fst hschema))⟩
  | noSchema hlocation _ _ _ => exact ⟨rfl, rfl, _, hlocation, .inl ⟨_, rfl⟩⟩

section

variable (hr : ∀ r ∈ l.resolver, r.loader.Within .onlyRecords)

include hr

theorem asking_within {α : Type} (x : Asking α) : Within .onlyRecords (x.run (fetch l)) :=
  asking_holds (Run.within .onlyRecords) (resolved_within hr) x

theorem schemaAt_within (location : Text) (bytes : Bytes) :
    Within .onlyRecords (schemaAt l location bytes) := by
  refine .bind (asking_within hr _) fun outcome => ?_
  cases outcome with
  | error f => exact .pure _
  | ok d => exact asking_within hr _

omit hr in
theorem comes_records (records : List Record) (w : World σ) :
    Comes (records.forM fun r => Run.tell (.logged r)) w (.ok ()) [] (w.toldAll (records.map .logged)) := by
  induction records generalizing w with
  | nil =>
    rw [List.map_nil, World.toldAll_nil]
    exact .pure () w
  | cons r records ih =>
    have hrest := ih (w.told (.logged r))
    rw [World.toldAll_told] at hrest
    exact (Comes.tell (.logged r) w).bind hrest

omit hr in
theorem comes_take {source : InputSource} {w : World σ} {outcome : Except Failure Bytes}
    (hread : (source.read w.files).1 = outcome) : Comes source.take w outcome [] w := .askFiles hread

/-- A schema is read if the bytes of its source spell one. -/
theorem comes_readSchema (location : Text) {source : InputSource} {bytes : Bytes} {w : World σ}
    (hread : (source.read w.files).1 = .ok bytes) :
    Comes (readSchema l location source) w
      ((runIn (schemaAt l location bytes) w).1 >>= fun
        | .error reason => .error (notASchema location reason)
        | .ok judge => .ok judge) []
      (runIn (schemaAt l location bytes) w).2 := by
  have htake := comes_take hread
  have hschema := Comes.of_within (schemaAt_within hr location bytes) w
  rw [readSchema_eq]
  rcases hat : runIn (schemaAt l location bytes) w with ⟨f | reason | judge, w'⟩ <;> rw [hat] at hschema
  · exact htake.bind hschema.bind_error
  · exact htake.bind (hschema.bind (.throw _ _))
  · exact htake.bind (hschema.bind (.pure _ _))

omit hr in
/-- What speaks against a document is told, one after another. -/
theorem comes_reportFlaws (j : Judgement) (w : World σ) :
    ∃ w', Comes (reportFlaws .story j) w (.ok ()) (j.flaws.map fun f => ⟨.error, f⟩) w' :=
  Comes.reports .error id j.flaws w

omit hr in
/-- How a schema is sought, and what it is used for, once its location is known. -/
theorem validateBySchema_eq (d : Document) :
    validateBySchema .story l d =
      ((schemaLocation d).2.forM fun r => Run.tell (.logged r)) >>= fun _ =>
        match (schemaLocation d).1 with
        | none => Run.report .warning (noLocation d)
        | some location => resolved l.resolver none (some location) >>= fun
          | none => Run.report .warning (unresolved location)
          | some source => readSchema l location source >>= fun judge => reportFlaws .story (judge d) := by
  rw [validateBySchema]
  rcases schemaLocation d with ⟨location, records⟩
  dsimp only
  refine congrArg _ (funext fun _ => ?_)
  cases location with
  | none => rfl
  | some location =>
    dsimp only
    refine congrArg _ (funext fun source => ?_)
    cases source <;> rfl

theorem exists_validation_bySchema (d : Document) (w : World σ) :
    ∃ told outcome w', Comes (validateBySchema .story l d) w outcome told w' ∧
      Validation l d w .xsd told outcome := by
  have hrecords := comes_records (schemaLocation d).2 w
  rw [← seeking] at hrecords
  -- what is told besides the records is told behind them
  have hbehind {next : Unit → Run σ Unit} {outcome : Except Failure Unit} {told : List Problem}
      {w' : World σ} (hnext : Comes (next ()) (seeking d w) outcome told w') :
      Comes (((schemaLocation d).2.forM fun r => Run.tell (.logged r)) >>= next) w outcome told w' :=
    hrecords.bind hnext
  rw [validateBySchema_eq]
  cases hlocation : (schemaLocation d).1 with
  | none => exact ⟨_, _, _, hbehind (.tell _ _), .noLocation hlocation⟩
  | some location =>
    have hcomes := Comes.of_within (resolved_within hr none (some location)) (seeking d w)
    rcases hresolved : runIn (resolved l.resolver none (some location)) (seeking d w) with ⟨f | s | s, w₁⟩ <;>
      rw [hresolved] at hcomes
    · exact ⟨_, _, _, hbehind hcomes.bind_error, .failed hlocation hresolved⟩
    · exact ⟨_, _, _, hbehind (hcomes.bind (.tell _ _)), .unresolved hlocation hresolved⟩
    · obtain ⟨bytes, hbytes⟩ := holding_of_resolved hresolved
      have hschema := comes_readSchema hr location (hbytes w₁.files)
      rcases hat : runIn (schemaAt l location bytes) w₁ with ⟨f | reason | judge, w₂⟩ <;>
        rw [hat] at hschema
      · exact ⟨_, _, _, hbehind (hcomes.bind hschema.bind_error),
          .interrupted hlocation hresolved (hbytes _) hat⟩
      · exact ⟨_, _, _, hbehind (hcomes.bind hschema.bind_error),
          .noSchema hlocation hresolved (hbytes _) hat⟩
      · obtain ⟨w₃, hflaws⟩ := comes_reportFlaws (judge d) w₂
        exact ⟨_, _, _, hbehind (hcomes.bind (hschema.bind hflaws)),
          .bySchema hlocation hresolved (hbytes _) hat⟩

theorem exists_validation (mode : Mode) (d : Document) (w : World σ) :
    ∃ told outcome w', Comes (validate .story l mode d) w outcome told w' ∧
      Validation l d w mode told outcome := by
  cases mode with
  | none => exact ⟨_, _, _, .pure () w, .unwanted (.inl rfl)⟩
  | auto => exact ⟨_, _, _, .pure () w, .unwanted (.inr rfl)⟩
  | xsd => exact exists_validation_bySchema hr d w
  | dtd =>
    change ∃ told outcome w', Comes (validateByDoctype .story l.engine d) w outcome told w' ∧ _
    rw [validateByDoctype]
    cases hsubset : validatingSubset? d with
    | none => exact ⟨_, _, _, .tell _ _, .noDoctype (Option.map_eq_none_iff.1 hsubset)⟩
    | some subset =>
      obtain ⟨w', hflaws⟩ := comes_reportFlaws (l.engine.judge subset d) w
      exact ⟨_, _, w', hflaws, .byDoctype hsubset⟩

end

/-! ### Documents -/

/-- The world in which a document is parsed: it was told how the document will be validated. -/
def begun (mode : Mode) (source : InputSource) (w : World σ) : World σ :=
  w.told (.logged ⟨.debug, .document,
    "Using " ++ mode.name ++ " validation for [" ++ SchemaResolver.shownId source.systemId ++ "]"⟩)

variable (l)

/-- What comes of parsing the bytes of a source, and the world after it. -/
def parse (mode : Mode) (source : InputSource) (bytes : Bytes) (w : World σ) :
    Except Failure (Except SyntaxFault Document) × World σ :=
  let a : Approach := ⟨mode = .dtd, l.isOffline, source.systemId⟩
  runIn ((l.engine.parse a bytes).run (fetch l)) (begun mode source w)

variable {l} in
theorem parse_eq {mode : Mode} {source : InputSource} {bytes : Bytes} {w : World σ}
    {result : Except Failure (Except SyntaxFault Document)}
    (h : (parse l mode source bytes w).1 = result) :
    parse l mode source bytes w = (result, (parse l mode source bytes w).2) :=
  Prod.ext h rfl

/-- The document that is parsed from the bytes of a source, if there is one. -/
def parsed? (mode : Mode) (source : InputSource) (bytes : Bytes) (w : World σ) : Option Document :=
  (parse l mode source bytes w).1.toOption.bind Except.toOption

variable {l} in
theorem parse_of_parsed? {mode : Mode} {source : InputSource} {bytes : Bytes} {w : World σ} {d : Document}
    (h : parsed? l mode source bytes w = some d) : (parse l mode source bytes w).1 = .ok (.ok d) := by
  obtain ⟨result, hresult, hd⟩ := Option.bind_eq_some_iff.1 h
  obtain rfl := Outcome.eq_ok_of_toOption hd
  exact Outcome.eq_ok_of_toOption hresult

/-- The ways in which a document is loaded from the bytes of a source: what is told, and the document
before anything is done about its namespaces. -/
inductive Course (mode : Mode) (source : InputSource) (bytes : Bytes) (w : World σ) :
    List Problem → Except Failure Document → Prop where
  /-- The resolver fails where the document needs an entity. -/
  | interrupted {f : Failure} {w₁ : World σ}
    (hparsed : parse l mode source bytes w = (.error f, w₁)) :
    Course mode source bytes w [] (.error f)
  | rejected {f : SyntaxFault} {w₁ : World σ}
    (hparsed : parse l mode source bytes w = (.ok (.error f), w₁)) :
    Course mode source bytes w [⟨.fatal, ⟨f.message, f.line, none⟩⟩]
      (.error (.document ⟨f.message, source.systemId, f.line⟩))
  | validated {d : Document} {told : List Problem} {outcome : Except Failure Unit} {w₁ : World σ}
    (hparsed : parse l mode source bytes w = (.ok (.ok d), w₁))
    (hvalidation : Validation l d w₁ mode told outcome) :
    Course mode source bytes w told (outcome.map fun _ => d)

variable {l}

/-- Loading takes one of the ways there are, and the same whether namespaces are kept or not. -/
theorem exists_course (hr : ∀ r ∈ l.resolver, r.loader.Within .onlyRecords) (mode : Mode)
    {source : InputSource} {bytes : Bytes} {w : World σ} (hread : (source.read w.files).1 = .ok bytes) :
    ∃ told document, Course l mode source bytes w told document ∧
      ∀ isNamespaceAware, ∃ w', Comes (load l mode isNamespaceAware source) w
        (document >>= finished mode isNamespaceAware) told w' := by
  have hbegin : Comes (Run.log .debug .document ("Using " ++ mode.name ++ " validation for [" ++
      SchemaResolver.shownId source.systemId ++ "]")) w (.ok ()) [] (begun mode source w) := .tell _ _
  have hask : Comes source.take (begun mode source w) (.ok bytes) [] (begun mode source w) :=
    comes_take hread
  have hparse := Comes.of_within
    (asking_within hr (l.engine.parse ⟨mode = .dtd, l.isOffline, source.systemId⟩ bytes))
    (begun mode source w)
  rcases hparsed : parse l mode source bytes w with ⟨f | fault | d, w₁⟩ <;>
    rw [← parse, hparsed] at hparse
  · exact ⟨[], _, .interrupted hparsed, fun _ =>
      ⟨w₁, hbegin.bind (hask.bind hparse.bind_error).bind_error⟩⟩
  · exact ⟨_, _, .rejected hparsed, fun _ =>
      ⟨_, hbegin.bind (hask.bind (hparse.bind ((Comes.tell _ _).bind (.throw _ _)))).bind_error⟩⟩
  · have hdocument : Comes (readDocument .story l mode source) (begun mode source w) (.ok d) [] w₁ :=
      hask.bind (hparse.bind (.pure d w₁))
    obtain ⟨told, outcome, w₂, hvalidate, hvalidation⟩ := exists_validation hr mode d w₁
    refine ⟨told, _, .validated hparsed hvalidation, fun isNamespaceAware => ?_⟩
    cases outcome with
    | error f => exact ⟨w₂, hbegin.bind (hdocument.bind hvalidate.bind_error)⟩
    | ok =>
      obtain ⟨w₃, hfinish⟩ := Comes.ofExcept_logged (finished mode isNamespaceAware d) .debug .document
        (fun d => "Loaded document [" ++ SchemaResolver.shownId source.systemId ++ "] with root <" ++
          rootTag d ++ ">") w₂
      rw [← List.append_nil told]
      exact ⟨w₃, hbegin.bind (hdocument.bind (hvalidate.bind hfinish))⟩

/-- Where no schema is asked for, a document that was parsed is judged, and handed out whatever the
judgement. -/
theorem exists_judged (hr : ∀ r ∈ l.resolver, r.loader.Within .onlyRecords) {mode : Mode}
    (hmode : mode ≠ .xsd) {source : InputSource} {bytes : Bytes} {w w₁ : World σ} {d : Document}
    (hread : (source.read w.files).1 = .ok bytes)
    (hparsed : parse l mode source bytes w = (.ok (.ok d), w₁)) :
    ∃ told, Validation l d w₁ mode told (.ok ()) ∧ ∀ isNamespaceAware, ∃ w',
      Comes (load l mode isNamespaceAware source) w (finished mode isNamespaceAware d) told w' := by
  obtain ⟨told, document, hcourse, hcomes⟩ := exists_course hr mode hread
  cases hcourse with
  | interrupted h | rejected h =>
    rw [hparsed] at h
    cases h
  | @validated d' _ outcome _ h hvalidation =>
    rw [hparsed] at h
    cases h
    cases outcome with
    | error f => exact absurd hvalidation.of_error.2.1 hmode
    | ok => exact ⟨told, hvalidation, hcomes⟩

/-! ### Sources and handlers -/

theorem problems_storyOf {mode : Mode} {isNamespaceAware : Bool} {source : InputSource} {w w' : World σ}
    {outcome : Except Failure Document} {told : List Problem}
    (h : Comes (load l mode isNamespaceAware source) w outcome told w') :
    problems (storyOf l mode isNamespaceAware source w) = told := by
  obtain ⟨hruns, events, hevents, htold⟩ := h
  rw [storyOf, hruns, hevents, List.drop_left, htold]

section

variable (hr : ∀ r ∈ l.resolver, r.loader.Within .onlyRecords)

include hr

/-- What is told does not depend on whether namespaces are kept. That a source cannot be read is not
told. -/
theorem exists_told (mode : Mode) (source : InputSource) (w : World σ) :
    ∃ told document, ∀ isNamespaceAware, ∃ w', Comes (load l mode isNamespaceAware source) w
      (document >>= finished mode isNamespaceAware) told w' := by
  cases hread : (source.read w.files).1 with
  | ok bytes =>
    obtain ⟨told, document, -, hcomes⟩ := exists_course hr mode hread
    exact ⟨told, document, hcomes⟩
  | error f =>
    have hask : Comes source.take (begun mode source w) (.error f) [] (begun mode source w) :=
      comes_take hread
    exact ⟨[], .error f, fun _ => ⟨_, Comes.bind (.tell _ w) hask.bind_error.bind_error⟩⟩

/-- What a handler makes of loading a document. -/
theorem loadFor_of_comes {mode : Mode} {isNamespaceAware : Bool} {source : InputSource} {w w' : World σ}
    {outcome : Except Failure Document} {told : List Problem}
    (h : Comes (load l mode isNamespaceAware source) w outcome told w') (handler : Option Handler) :
    let heard := loadFor handler l mode isNamespaceAware source w
    heard.handler = ((handler.getD .strict).heed told).1 ∧
      heard.outcome = ((handler.getD .strict).heed told).2 >>= fun _ => outcome := by
  intro heard
  have hheard : heard = (handler.getD .strict).attend
      (storyOf l mode isNamespaceAware source w) outcome := by
    have hattend := loadFor_eq_attend hr mode isNamespaceAware source w handler
    rw [h.runs] at hattend
    exact hattend
  have hheed := (handler.getD .strict).hearAll_eq_heed (storyOf l mode isNamespaceAware source w)
  rw [problems_storyOf h] at hheed
  rw [hheard, ← hheed]
  exact ⟨rfl, rfl⟩

end

end Loading

end SchemaGate
