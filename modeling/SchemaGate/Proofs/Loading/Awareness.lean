import SchemaGate.Proofs.Loading.Accounting

/-! What it does to loading that namespaces are kept.

    Parsing and validation do not ask whether namespaces are kept, so the same is told in both cases, and
    the same failure ends them (`awareness_only_strips`). What differs is the document that is handed out:
    without namespaces it is what is left of the other one. That may be nothing, and then only one of the
    two loads fails (`plain_load_can_fail_alone`). -/

namespace SchemaGate.Loading

open Xml
open Run (Comes runIn)

variable {σ : Type}

/-- Two loads of a document differ only in that the second one drops its namespaces. -/
structure OnlyStrips (mode : Mode) (aware plain : Heard Document) : Prop where
  handler : plain.handler = aware.handler
  failure : ∀ f, aware.outcome = .error f → plain.outcome = .error f
  /-- A schema validates names with their namespaces, and these are kept. -/
  bySchema : mode = .xsd → plain.outcome = aware.outcome
  strips : mode ≠ .xsd → ∀ d, aware.outcome = .ok d →
    plain.outcome = d.root.withoutNamespaces.map fun root => { d with root := root }
  /-- The second load fails alone exactly where the cut of names leaves something else than names. -/
  fails_alone_iff : ∀ d, aware.outcome = .ok d → HasSeparableNames d →
    ((∃ f, plain.outcome = .error f) ↔ mode ≠ .xsd ∧ ¬ LeavesPlainNames d) ∧
    ∀ f, plain.outcome = .error f →
      ∃ e ∈ d.root.heads, e.name.space ≠ none ∧ isPlainName (Text.chars e.name.part) = false ∧
        f = .invalidTag e.name.part

theorem finished_aware (mode : Mode) (d : Document) : finished mode true d = .ok d := by
  rw [finished, Bool.true_or, if_pos rfl]

theorem finished_bySchema (isNamespaceAware : Bool) (d : Document) :
    finished .xsd isNamespaceAware d = .ok d := by
  rw [finished, decide_eq_true rfl, Bool.or_true, if_pos rfl]

theorem finished_plain {mode : Mode} (hmode : mode ≠ .xsd) (d : Document) :
    finished mode false d = d.root.withoutNamespaces.map fun root => { d with root := root } := by
  rw [finished, decide_eq_false hmode, Bool.or_self, if_neg Bool.false_ne_true]

/-- A document that is handed out with its namespaces has local names that can be told from them. -/
theorem cuttable_of_loadFor {l : DocumentLoader σ} (hnames : l.engine.ReadsNames)
    (hr : ∀ r ∈ l.resolver, r.loader.Within .onlyRecords) {handler : Option Handler} {mode : Mode}
    {source : InputSource} {w : World σ} {d : Document}
    (h : (loadFor handler l mode true source w).outcome = .ok d)
    (hseparable : HasSeparableNames d) : Node.Cuttable d.root.heads := by
  rw [loadFor_eq_attend hr, Handler.attend] at h
  obtain ⟨-, -, houtcome⟩ := Outcome.bind_eq_ok.1 h
  obtain ⟨told, bytes, d₀, w₁, -, hparsed, hfinished⟩ := exists_parsed_of_load
    (Prod.ext houtcome rfl : runIn (load l mode true source) w = (.ok d, _))
  obtain rfl : d₀ = d := Except.ok.inj ((finished_aware mode d₀).symm.trans hfinished)
  exact fun e he => ⟨hnames _ _ _ (Asking.yields_of_runIn hparsed) e he, hseparable e he⟩

section

variable {l : DocumentLoader σ} (hr : ∀ r ∈ l.resolver, r.loader.Within .onlyRecords)
  (handler : Option Handler) (mode : Mode) (source : InputSource) (w : World σ)

include hr

/-- Dropping the namespaces is the last that is done, whoever hears of the load. -/
theorem plain_eq_aware :
    let aware := loadFor handler l mode true source w
    let plain := loadFor handler l mode false source w
    problems (storyOf l mode false source w) = problems (storyOf l mode true source w) ∧
      plain.handler = aware.handler ∧ plain.outcome = aware.outcome >>= finished mode false := by
  intro aware plain
  obtain ⟨told, document, hcomes⟩ := exists_told hr mode source w
  obtain ⟨w₁, haware⟩ := hcomes true
  obtain ⟨w₂, hplain⟩ := hcomes false
  obtain ⟨hhandler, houtcome⟩ := loadFor_of_comes hr haware handler
  obtain ⟨hhandler', houtcome'⟩ := loadFor_of_comes hr hplain handler
  refine ⟨(problems_storyOf hplain).trans (problems_storyOf haware).symm, hhandler'.trans hhandler.symm, ?_⟩
  rw [houtcome, houtcome', bind_assoc, bind_assoc]
  simp only [finished_aware]
  rfl

/-- A load that drops namespaces is the one that keeps them, up to the document that is handed out. This is
so with every engine that reads no braces in names; and of resource loaders only this is asked, that they
tell nothing but records. -/
theorem awareness_only_strips (hnames : l.engine.ReadsNames) :
    problems (storyOf l mode false source w) = problems (storyOf l mode true source w) ∧
      OnlyStrips mode (loadFor handler l mode true source w)
        (loadFor handler l mode false source w) := by
  obtain ⟨hproblems, hhandler, houtcome⟩ := plain_eq_aware hr handler mode source w
  refine ⟨hproblems, hhandler, ?_, ?_, ?_, ?_⟩
  · intro f hf
    rw [houtcome, hf]
    rfl
  · rintro rfl
    rw [houtcome]
    cases (loadFor handler l .xsd true source w).outcome with
    | error f => rfl
    | ok d => exact finished_bySchema false d
  · intro hmode d hd
    rw [houtcome, hd]
    exact finished_plain hmode d
  · intro d hd hseparable
    have hcut := cuttable_of_loadFor hnames hr hd hseparable
    have hfinished : (loadFor handler l mode false source w).outcome = finished mode false d := by
      rw [houtcome, hd]
      rfl
    rw [hfinished]
    refine ⟨?_, fun f hf => exists_invalidTag_of_finished hcut hf⟩
    have hiff := exists_finished_iff mode false hcut
    cases hresult : finished mode false d with
    | ok d' =>
      have hall := hiff.1 ⟨d', hresult⟩
      simp only [Bool.false_eq_true, false_or] at hall
      exact iff_of_false nofun fun ⟨hmode, hnot⟩ => hall.elim hmode hnot
    | error f =>
      rw [hresult] at hiff
      have hnot : ¬ ((false = true ∨ mode = .xsd) ∨ LeavesPlainNames d) := fun hall => by
        obtain ⟨d', hok⟩ := hiff.2 hall
        cases hok
      simp only [Bool.false_eq_true, false_or, not_or] at hnot
      exact iff_of_true ⟨f, rfl⟩ hnot

end

/-- Whether namespaces are kept makes no difference to what is said of a document without any. -/
theorem awareness_only_strips_oneElement :
    alone.engine.ReadsNames ∧ (∀ r ∈ alone.resolver, r.loader.Within .onlyRecords) ∧
      (loadFor (some (.collector none)) alone .dtd false (spelled "<a/>") bare).handler =
        (loadFor (some (.collector none)) alone .dtd true (spelled "<a/>") bare).handler :=
  ⟨Engine.readsNames_builtIn, loader_nowhere, (awareness_only_strips (l := alone) loader_nowhere
    (some (.collector none)) .dtd (spelled "<a/>") bare Engine.readsNames_builtIn).2.handler⟩

/-- A document is handed out with its namespaces, and withheld without them. -/
theorem plain_load_can_fail_alone :
    let load := fun isNamespaceAware =>
      loadFor (some (.collector none)) alone .none isNamespaceAware (spelled colonTag) bare
    ∃ d, HasSeparableNames d ∧ (load true).outcome = .ok d ∧
      (load false).outcome = .error (.invalidTag ":a") := by
  intro load
  obtain ⟨d, hparsed, hnames, -, hcut⟩ := exists_colonDocument .none
  have hdocument : ∀ isNamespaceAware,
      (load isNamespaceAware).outcome = finished .none isNamespaceAware d := by
    intro isNamespaceAware
    obtain ⟨told, -, hcomes⟩ := exists_judged loader_nowhere (by decide) rfl (parse_eq hparsed)
    obtain ⟨w', hcomes⟩ := hcomes isNamespaceAware
    obtain ⟨-, houtcome⟩ := loadFor_of_comes loader_nowhere hcomes (some (.collector none))
    rw [Option.getD_some, Handler.collector, Handler.heed_collecting] at houtcome
    exact houtcome
  refine ⟨d, hnames, (hdocument true).trans (finished_aware .none d), (hdocument false).trans ?_⟩
  rw [finished_plain (by decide), hcut]
  rfl

end SchemaGate.Loading
