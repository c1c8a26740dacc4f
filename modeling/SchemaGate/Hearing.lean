import SchemaGate.Run

/-!
Hearing of a run. A run tells events without knowing who listens; a handler hears them one after the
other. Where it refuses to go on, nothing that came later counts, neither events nor the outcome.
-/

namespace SchemaGate

/-- What a handler makes of a run: the handler afterwards, the log records that were written, and how
the run ends for it. -/
structure Heard (α : Type) where
  handler : Handler
  records : List Record
  outcome : Except Failure α

namespace Handler

/-- Hears events in their order, up to the first one it refuses to go on after. -/
def hearAll : Handler → List Event → Heard Unit
  | h, [] => ⟨h, [], .ok ()⟩
  | h, .logged r :: rest =>
    let heard := h.hearAll rest
    { heard with records := r :: heard.records }
  | h, .problem p :: rest =>
    match h.hear p with
    | (h, records, .error f) => ⟨h, records, .error f⟩
    | (h, records, .ok ()) =>
      let heard := h.hearAll rest
      { heard with records := records ++ heard.records }

/-- Hears of a run with its events and its outcome. -/
def attend {α : Type} (h : Handler) (events : List Event) (outcome : Except Failure α) : Heard α :=
  let heard := h.hearAll events
  ⟨heard.handler, heard.records, heard.outcome.bind fun _ => outcome⟩

end Handler

end SchemaGate
