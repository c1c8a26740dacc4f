import SchemaGate.Encoding.Decoder
import SchemaGate.Text.CodePoint

/-!
Asking for entities. What reads documents does nothing to a world but ask for the entities that it
needs: it is done, or it asks for one and goes on from the answer. Who runs it answers.
-/

namespace SchemaGate.Xml

/-- What is asked for when an external entity is needed. -/
structure EntityRequest where
  publicId : Option Text
  address : Text

/-- Answers requests with the bytes of the entity, or with none if there is no such entity. -/
abbrev Fetch (m : Type → Type) := EntityRequest → m (Option Bytes)

/-- A computation that may ask for entities on its way. -/
inductive Asking (α : Type) where
  | done (a : α)
  | ask (request : EntityRequest) (next : Option Bytes → Asking α)

namespace Asking

variable {α β : Type}

/-- One computation after another. -/
def bind (x : Asking α) (f : α → Asking β) : Asking β :=
  match x with
  | .done a => f a
  | .ask request next => .ask request fun answer => (next answer).bind f

instance : Monad Asking where
  pure := .done
  bind := bind

/-- Asks for one entity. -/
def one : Fetch Asking := fun request => .ask request .done

/-- Runs a computation that is answered as it asks. -/
def run {m : Type → Type} [Monad m] (fetch : Fetch m) : Asking α → m α
  | .done a => pure a
  | .ask request next => do (next (← fetch request)).run fetch

/-- Some answers lead to a result. -/
inductive Yields : Asking α → α → Prop
  | done (a : α) : Yields (.done a) a
  | ask {request : EntityRequest} {next : Option Bytes → Asking α} {a : α} (answer : Option Bytes)
    (h : Yields (next answer) a) : Yields (.ask request next) a

end Asking

end SchemaGate.Xml
