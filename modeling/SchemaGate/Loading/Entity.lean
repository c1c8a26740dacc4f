import SchemaGate.Resource.Resolver
import SchemaGate.Xml.Engine

/-!
External entities of documents. A resolver is asked first; what it does not know is left to the engine.
-/

namespace SchemaGate

/-- What documents are loaded with. -/
structure DocumentLoader (σ : Type) where
  engine : Xml.Engine
  /-- Must the engine take nothing from the network? -/
  isOffline : Bool
  resolver : Option (SchemaResolver σ)

namespace Loading

variable {σ : Type}

/-- The source that a resolver has for a request; without a resolver there is none. -/
def resolved (resolver : Option (SchemaResolver σ)) (publicId systemId : Option Text) :
    Run σ (Option InputSource) :=
  match resolver with
  | some r => r.resolve publicId systemId
  | none => return none

/-- Answers a request for an entity. -/
def fetch (l : DocumentLoader σ) : Xml.Fetch (Run σ) := fun request => do
  match ← resolved l.resolver request.publicId (some request.address) with
  | some source => return some (← source.take)
  | none => return l.engine.openItself l.isOffline (← get).files request.address

end Loading

end SchemaGate
