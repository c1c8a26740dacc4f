import SchemaGate.Proofs.Loading.Hearing
import SchemaGate.Proofs.Report
import SchemaGate.Proofs.Text.Joined

/-! What a report has been told.

    Entries come into the report of a collecting handler in two ways: they are made in it, or the handler
    hears of a problem (`Call`). Either way it is one more entry (`Call.apply_collecting`), so after any
    calls the report is the one built from their entries in order (`Call.foldl_apply`), and it tells of
    exactly these (`Report.tells_of_entries`). Entries of an unknown severity are listed and counted
    nowhere: with no others, the summary says that there is nothing to tell. -/

namespace SchemaGate

/-- What is done to a collecting handler: an entry is made in its report, or it hears of a problem. -/
inductive Call where
  | enter (e : Entry)
  | hear (p : Problem)

namespace Call

/-- The entry that a call makes in a report on `source`. -/
def entry (source : Option Text) : Call → Entry
  | .enter e => e
  | .hear p => Handler.entry source p

/-- The handler after a call. A strict one has no report to enter anything in. -/
def apply : Handler → Call → Handler
  | .collecting source report, .enter e => .collecting source (report.add e)
  | .strict, .enter _ => .strict
  | h, .hear p => (h.hear p).1

/-- A call is one more entry, of whichever kind it is. -/
theorem apply_collecting (source : Option Text) (report : Report) (c : Call) :
    apply (.collecting source report) c = .collecting source (report.add (c.entry source)) := by
  cases c <;> rfl

theorem foldl_apply (source : Option Text) (report : Report) (calls : List Call) :
    calls.foldl apply (.collecting source report) =
      .collecting source ((calls.map (entry source)).foldl Report.add report) := by
  induction calls generalizing report with
  | nil => rfl
  | cons c calls ih => rw [List.foldl_cons, apply_collecting, ih, List.map_cons, List.foldl_cons]

end Call

namespace Report

/-- The text of a report without errors and warnings. -/
def nothingToTell : Text := "Validation PASSED - No errors found"

/-- The first line of a report with errors or warnings. -/
def header (isValid : Bool) (errorCount warningCount : Nat) : Text :=
  let status : Text := if isValid then ("PASSED" : String) else ("FAILED" : String)
  "Validation " ++ status ++ " - " ++ Text.ofNat errorCount ++ " error(s), " ++ Text.ofNat warningCount
    ++ " warning(s)"

/-- All that a report says of the entries that were made in it. -/
structure TellsOf (r : Report) (entries : List Entry) : Prop where
  listed : r.entries = entries
  errors : r.errorCount = entries.countP fun e =>
    e.severity = some Severity.error.name ∨ e.severity = some Severity.fatal.name
  warnings : r.warningCount = entries.countP fun e => e.severity = some Severity.warning.name
  valid_iff : r.isValid = true ↔ r.errorCount = 0
  all_messages : r.messages none = entries.map (·.message)
  messages_of : ∀ severity,
    r.messages (some severity) = (entries.filter fun e => e.severity = some severity).map (·.message)
  nothing_iff : r.summary = nothingToTell ↔ ∀ e ∈ entries, ∀ s : Severity, e.severity ≠ some s.name
  itemized : (∃ e ∈ entries, ∃ s : Severity, e.severity = some s.name) →
    r.summary = header r.isValid r.errorCount r.warningCount ++ entries.flatMap fun e => .char '\n' :: item e

/-- An entry is counted iff its severity is one that is known. -/
theorem counted_iff {e : Entry} :
    isError e = true ∨ isWarning e = true ↔ ∃ s : Severity, e.severity = some s.name := by
  simp only [isError, isWarning, Bool.or_eq_true, decide_eq_true_eq]
  constructor
  · rintro ((h | h) | h)
    · exact ⟨.error, h⟩
    · exact ⟨.fatal, h⟩
    · exact ⟨.warning, h⟩
  · rintro ⟨severity, h⟩
    cases severity with
    | warning => exact .inr h
    | error => exact .inl (.inl h)
    | fatal => exact .inl (.inr h)

/-- A header says something else than that there is nothing to tell. -/
theorem header_append_ne {isValid : Bool} {errorCount : Nat} (h : isValid = true → errorCount = 0)
    (warningCount : Nat) (rest : Text) : header isValid errorCount warningCount ++ rest ≠ nothingToTell := by
  intro heq
  have hfront : header isValid errorCount warningCount <+: nothingToTell := ⟨rest, heq⟩
  cases isValid with
  | false =>
    have hfailed : ("Validation " ++ "FAILED" : Text) <+: header false errorCount warningCount := by
      simp [header]
    exact absurd (hfailed.trans hfront) (by decide)
  | true =>
    have hpassed : ("Validation " ++ "PASSED" ++ " - " ++ Text.ofNat 0 : Text) <+:
        header true errorCount warningCount := by
      simp [header, h]
    exact absurd (hpassed.trans hfront) (by decide)

namespace Tallied

variable {r : Report} (h : r.Tallied)

include h

theorem isValid_iff : r.isValid = true ↔ r.errorCount = 0 := by
  rw [h.valid, h.errors, List.countP_eq_zero]
  simp

/-- Where an entry is counted, the summary is a header with the counts, and then the entries. -/
theorem summary_eq_header (hcounted : ∃ e ∈ r.entries, ∃ s : Severity, e.severity = some s.name) :
    r.summary = header r.isValid r.errorCount r.warningCount ++
      r.entries.flatMap fun e => .char '\n' :: item e := by
  simp only [← counted_iff] at hcounted
  rw [h.summary_of_counted hcounted, summaryOf, Text.join_eq_append, List.flatMap_map, h.errors, h.warnings]
  rfl

theorem summary_eq_nothing_iff :
    r.summary = nothingToTell ↔ ∀ e ∈ r.entries, ∀ s : Severity, e.severity ≠ some s.name := by
  by_cases hcounted : ∃ e ∈ r.entries, ∃ s : Severity, e.severity = some s.name
  · rw [h.summary_eq_header hcounted]
    refine iff_of_false (header_append_ne h.isValid_iff.1 _ _) fun hnone => ?_
    obtain ⟨e, he, s, hs⟩ := hcounted
    exact hnone e he s hs
  · refine iff_of_true ?_ fun e he s hs => hcounted ⟨e, he, s, hs⟩
    have hquiet : (r.isValid && r.warningCount == 0) = true := by
      refine h.quiet_iff.2 fun e he => ?_
      have hnot : ¬ (isError e = true ∨ isWarning e = true) := fun hc => hcounted ⟨e, he, counted_iff.1 hc⟩
      simpa using hnot
    rw [summary, if_pos hquiet, nothingToTell]

end Tallied

/-- A report tells of the entries that were made in it, of all of them and of no others. -/
theorem tells_of_entries (entries : List Entry) : (entries.foldl Report.add empty).TellsOf entries := by
  have hlisted : (entries.foldl Report.add empty).entries = entries := entries_foldl_add empty entries
  have htallied : (entries.foldl Report.add empty).Tallied := tallied_foldl_add entries tallied_empty
  generalize entries.foldl Report.add empty = r at hlisted htallied
  subst hlisted
  exact {
    listed := rfl
    errors := htallied.errors.trans (List.countP_congr fun e _ => by simp [isError])
    warnings := htallied.warnings
    valid_iff := htallied.isValid_iff
    all_messages := by simp [messages, List.filter_eq_self.2]
    messages_of := fun severity => by simp [messages]
    nothing_iff := htallied.summary_eq_nothing_iff
    itemized := htallied.summary_eq_header }

example : (empty.add ⟨none, none, none, "m", some "Notice"⟩).summary = nothingToTell := by decide

end Report

/-- Whatever is done to a collecting handler, in whichever order, its report tells of the entries that this
made, one for each call. -/
theorem report_tells_of_calls (source : Option Text) (calls : List Call) :
    ∃ r, calls.foldl Call.apply (Handler.collector source) = .collecting source r ∧
      r.TellsOf (calls.map (Call.entry source)) :=
  ⟨_, Call.foldl_apply source Report.empty calls, Report.tells_of_entries _⟩

end SchemaGate
