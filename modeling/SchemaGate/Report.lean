import SchemaGate.Log
import SchemaGate.Failure

/-!
Reports. A handler hears of the problems of a document: a collecting handler enters each into a
report, a strict one logs warnings and stops at the first error. A report keeps its counters with
its entries; entries of a severity it does not know are listed and counted nowhere.
-/

namespace SchemaGate

/-- How grave a problem is. -/
inductive Severity where
  | warning
  | error
  | fatal
  deriving DecidableEq

/-- The name of a severity in a report. -/
def Severity.name : Severity → Text
  | .warning => "Warning"
  | .error => "Error"
  | .fatal => "Fatal"

/-- An entry of a report. Any name of a severity is allowed, or none. -/
structure Entry where
  source : Option Text
  line : Option Int
  column : Option Int
  message : Text
  severity : Option Text
  deriving DecidableEq

/-- Entries and their counters. -/
structure Report where
  isValid : Bool
  errorCount : Nat
  warningCount : Nat
  entries : List Entry

namespace Report

/-- The report on a document without problems. -/
def empty : Report := ⟨true, 0, 0, []⟩

/-- Is the entry an error? -/
def isError (e : Entry) : Bool := e.severity = some Severity.error.name
  || e.severity = some Severity.fatal.name

/-- Is the entry a warning? -/
def isWarning (e : Entry) : Bool := e.severity = some Severity.warning.name

/-- The report with one more entry. -/
def add (r : Report) (e : Entry) : Report :=
  if isError e then ⟨false, r.errorCount + 1, r.warningCount, r.entries ++ [e]⟩
  else if isWarning e then ⟨r.isValid, r.errorCount, r.warningCount + 1, r.entries ++ [e]⟩
  else ⟨r.isValid, r.errorCount, r.warningCount, r.entries ++ [e]⟩

/-- The messages of a severity, or all of them. -/
def messages (r : Report) (severity : Option Text) : List Text :=
  (r.entries.filter fun e => severity.isNone || e.severity = severity).map (·.message)

/-- An entry as the summary lists it. -/
def item (e : Entry) : Text :=
  let place : Text := match e.line with
    | some line => "line " ++ Text.ofInt line ++ ": "
    | none => ""
  "  [" ++ e.severity.getD ("None" : Text) ++ "] " ++ place ++ e.message

/-- The report as text: one line when there is nothing to tell, else a header and the entries. -/
def summary (r : Report) : Text :=
  if r.isValid && r.warningCount == 0 then "Validation PASSED - No errors found"
  else
    let status : Text := if r.isValid then ("PASSED" : String) else ("FAILED" : String)
    let header : Text := "Validation " ++ status ++ " - " ++ Text.ofNat r.errorCount
      ++ " error(s), " ++ Text.ofNat r.warningCount ++ " warning(s)"
    Text.join "\n" (header :: r.entries.map item)

end Report

/-- A problem told to a handler. -/
structure Problem where
  severity : Severity
  finding : Finding
  deriving DecidableEq

/-- Who hears of problems: a handler that stops at errors, or one that collects into a report. -/
inductive Handler where
  | strict
  | collecting (source : Option Text) (report : Report)

namespace Handler

/-- A handler that has collected nothing yet. -/
def collector (source : Option Text) : Handler := .collecting source Report.empty

/-- The entry a problem becomes in a report on `source`. -/
def entry (source : Option Text) (p : Problem) : Entry :=
  ⟨source, p.finding.line, p.finding.column, p.finding.message, some p.severity.name⟩

/-- What a handler does on one problem: it has changed, it logs, and it may refuse to go on. -/
def hear (h : Handler) (p : Problem) : Handler × List Record × Except Failure Unit :=
  match h with
  | .collecting source report => (.collecting source (report.add (entry source p)), [], .ok ())
  | .strict =>
    match p.severity with
    | .warning =>
      (.strict,
        [⟨.warning, .handler, "Ignored XML validation warning: " ++ p.finding.text⟩], .ok ())
    | _ => (.strict, [], .error (.invalid p.finding))

/-- The report of a collecting handler. -/
def report? : Handler → Option Report
  | .strict => none
  | .collecting _ report => some report

end Handler

end SchemaGate
