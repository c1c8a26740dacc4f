import SchemaGate.Proofs.Run

/-! Properties that computations have because their steps do.

    Much of what is to be said of a long computation is true of every step of it and of one step after
    another, whatever the steps are about. A discipline is such a property. What is done in all monads
    needs no more than two rules (`Discipline`); a run also fails, catches failures, logs and asks the file
    system (`RunDiscipline`). Keeping to a frame is one of them (`Run.within`). -/

namespace SchemaGate

/-- A property of computations that holds of doing nothing and of one computation after another. -/
structure Discipline (m : Type → Type) [Monad m] where
  Holds : ∀ {α : Type}, m α → Prop
  pure : ∀ {α : Type} (a : α), Holds (Pure.pure a)
  bind : ∀ {α β : Type} {x : m α} {f : α → m β},
    Holds x → (∀ a, Holds (f a)) → Holds (x >>= f)

/-- A property of runs that holds of runs that only fail, log or ask the file system, and of catching
failures. -/
structure RunDiscipline (σ : Type) extends Discipline (Run σ) where
  throw : ∀ {α : Type} (f : Failure), Holds (MonadExcept.throw f : Run σ α)
  tryCatch : ∀ {α : Type} {action : Run σ α} {handle : Failure → Run σ α},
    Holds action → (∀ f, Holds (handle f)) → Holds (MonadExcept.tryCatch action handle)
  log : ∀ level topic text, Holds (Run.log level topic text)
  askFiles : ∀ {α : Type} (question : FileSystem → Except Failure α), Holds (Run.askFiles question)

namespace RunDiscipline

variable {σ α β : Type} (D : RunDiscipline σ)

theorem ofExcept (result : Except Failure α) : D.Holds (Run.ofExcept result) := by
  cases result with
  | ok a => exact D.pure a
  | error f => exact D.throw f

theorem forM {action : β → Run σ Unit} (h : ∀ b, D.Holds (action b)) (bs : List β) :
    D.Holds (bs.forM action) := by
  induction bs with
  | nil => exact D.pure ()
  | cons b bs ih => exact D.bind (h b) fun _ => ih

/-- A loop that only runs actions is those actions one after another. -/
theorem forIn {action : β → Run σ Unit} (h : ∀ b, D.Holds (action b)) (bs : List β) :
    D.Holds (ForIn.forIn bs PUnit.unit fun b _ => do
      action b
      Pure.pure (ForInStep.yield PUnit.unit)) := by
  induction bs with
  | nil => exact D.pure _
  | cons b bs ih =>
    rw [List.forIn_cons]
    exact D.bind (D.bind (h b) fun _ => D.pure _) fun
      | .done _ => D.pure _
      | .yield _ => ih

theorem foldlM {step : β → α → Run σ β} (h : ∀ b a, D.Holds (step b a)) (b : β) (as : List α) :
    D.Holds (as.foldlM step b) := by
  induction as generalizing b with
  | nil => exact D.pure b
  | cons a as ih =>
    rw [List.foldlM_cons]
    exact D.bind (h b a) ih

end RunDiscipline

/-- Keeping to a frame is a discipline. -/
def Run.within {σ : Type} (F : Frame σ) : RunDiscipline σ where
  Holds := Run.Within F
  pure := .pure
  bind := .bind
  throw := .throw
  tryCatch := .tryCatch
  log := .log
  askFiles := .askFiles

end SchemaGate
