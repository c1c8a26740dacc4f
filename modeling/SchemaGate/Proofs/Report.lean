import SchemaGate.Report

/-! Reports that were kept entry by entry.

    A report keeps its counters with its entries, so it could say one thing and list another. One that
    was built by entering problems never does: it counts its errors and its warnings, and is valid
    exactly if it lists no error (`Tallied`). Each entry keeps that up (`Tallied.add`), hence any number
    of them (`tallied_foldl_add`), and the summary says it (`Tallied.summary_of_counted`). -/

namespace SchemaGate.Report

/-- The counters and the flag say what the entries say. -/
structure Tallied (r : Report) : Prop where
  errors : r.errorCount = r.entries.countP isError
  warnings : r.warningCount = r.entries.countP isWarning
  valid : r.isValid = true ↔ ∀ e ∈ r.entries, isError e = false

/-- What a summary says of entries under a verdict: how many errors and warnings there are, and then
each of them. -/
def summaryOf (isValid : Bool) (entries : List Entry) : Text :=
  let status : Text := if isValid then ("PASSED" : String) else ("FAILED" : String)
  let header : Text := "Validation " ++ status ++ " - " ++ Text.ofNat (entries.countP isError)
    ++ " error(s), " ++ Text.ofNat (entries.countP isWarning) ++ " warning(s)"
  Text.join "\n" (header :: entries.map item)

theorem not_isWarning_of_isError {e : Entry} (h : isError e = true) : isWarning e = false := by
  simp only [isError, Bool.or_eq_true, decide_eq_true_eq] at h
  rcases h with h | h
  · simp [isWarning, h, Severity.name, Text.ofString]
  · simp [isWarning, h, Severity.name, Text.ofString]

theorem tallied_empty : empty.Tallied := by
  constructor <;> simp [empty]

/-- An entry is counted where it belongs. -/
theorem Tallied.add {r : Report} (h : r.Tallied) (e : Entry) : (r.add e).Tallied := by
  obtain ⟨herrors, hwarnings, hvalid⟩ := h
  rw [Report.add]
  by_cases he : isError e = true
  · have hw := not_isWarning_of_isError he
    constructor
    · simp [he, herrors]
    · simp [he, hw, hwarnings]
    · simp [he]
  · by_cases hw : isWarning e = true
    · constructor
      · simp [he, hw, herrors]
      · simp [he, hw, hwarnings]
      · simp [he, hw, hvalid, or_imp, forall_and]
    · constructor
      · simp [he, hw, herrors]
      · simp [he, hw, hwarnings]
      · simp [he, hw, hvalid, or_imp, forall_and]

theorem tallied_foldl_add (entries : List Entry) {r : Report} (h : r.Tallied) :
    (entries.foldl Report.add r).Tallied := by
  induction entries generalizing r with
  | nil => exact h
  | cons e entries ih => exact ih (h.add e)

/-- A report has nothing to tell iff it lists no error and no warning. -/
theorem Tallied.quiet_iff {r : Report} (h : r.Tallied) :
    (r.isValid && r.warningCount == 0) = true ↔
      ∀ e ∈ r.entries, isError e = false ∧ isWarning e = false := by
  have hnone : r.entries.countP isWarning = 0 ↔ ∀ e ∈ r.entries, isWarning e = false := by
    simp [List.countP_eq_zero]
  rw [Bool.and_eq_true, beq_iff_eq, h.valid, h.warnings, hnone]
  exact ⟨fun h e he => ⟨h.1 e he, h.2 e he⟩, fun h => ⟨fun e he => (h e he).1, fun e he => (h e he).2⟩⟩

/-- A report that lists an error or a warning lists all its entries in its summary, under its counts. -/
theorem Tallied.summary_of_counted {r : Report} (h : r.Tallied)
    (hcounted : ∃ e ∈ r.entries, isError e = true ∨ isWarning e = true) :
    r.summary = summaryOf r.isValid r.entries := by
  have htells : (r.isValid && r.warningCount == 0) = false := by
    rw [Bool.eq_false_iff, ne_eq, h.quiet_iff]
    obtain ⟨e, he, hcounted⟩ := hcounted
    intro hquiet
    simp [hquiet e he] at hcounted
  rw [summary, htells, summaryOf, h.errors, h.warnings]
  rfl

/-- A report that lists anything, and nothing but warnings and errors, lists it in its summary under its
counts. -/
theorem Tallied.summary_eq {r : Report} (h : r.Tallied) (hne : r.entries ≠ [])
    (hknown : ∀ e ∈ r.entries, isError e = true ∨ isWarning e = true) :
    r.summary = summaryOf r.isValid r.entries := by
  obtain ⟨e, entries, heq⟩ := List.exists_cons_of_ne_nil hne
  have hmem : e ∈ r.entries := by rw [heq]; exact List.mem_cons_self
  exact h.summary_of_counted ⟨e, hmem, hknown e hmem⟩

end SchemaGate.Report
