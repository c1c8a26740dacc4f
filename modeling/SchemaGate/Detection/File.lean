import SchemaGate.Detection.Stream
import SchemaGate.Run

/-!
Detection of the mode of a file.
-/

namespace SchemaGate.Detection

/-- Detects the mode of the file at a path. -/
def detectFile {σ : Type} (d : Detector) (path : Text) : Run σ Mode := do
  let bytes ← Run.askFiles fun fs => fs.read path
  let found := detectBytes d bytes
  for r in found.records do
    Run.tell (.logged r)
  let mode ← Run.ofExcept found.outcome
  Run.log .debug .detection ("Detected " ++ mode.name ++ " validation for " ++ path)
  return mode

end SchemaGate.Detection
