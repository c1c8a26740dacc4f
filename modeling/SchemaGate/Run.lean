import SchemaGate.Files.FileSystem
import SchemaGate.Log
import SchemaGate.Report
import SchemaGate.Table.Memory

/-!
Runs. A run acts on a world: the file system, the tables that were made, what a resource loader keeps for
itself, and the events so far. The events are the story of the run: log records and
problems in their order, told without knowing who listens. A run that fails keeps the world as it was
when it failed.
-/

namespace SchemaGate

/-- What a run tells. -/
inductive Event where
  | logged (record : Record)
  | problem (p : Problem)

/-- What runs act on; `σ` is the state of the resource loader. -/
structure World (σ : Type) where
  files : FileSystem
  tables : TableMemory
  store : σ
  events : List Event

/-- A world in which nothing has happened. -/
def World.start {σ : Type} (files : FileSystem) (store : σ) : World σ := ⟨files, .empty, store, []⟩

/-- The table that the resolver keeps, once it is loaded. -/
def World.loaded {σ : Type} (w : World σ) : Option Mappings := w.tables.loaded

/-- A run that ends in a value or in a failure. -/
abbrev Run (σ α : Type) := ExceptT Failure (StateM (World σ)) α

namespace Run

variable {σ α : Type}

/-- Tells an event. -/
def tell (e : Event) : Run σ Unit := modify fun w => { w with events := w.events ++ [e] }

/-- Logs a record. -/
def log (level : Level) (topic : Topic) (text : Text) : Run σ Unit :=
  tell (.logged ⟨level, topic, text⟩)

/-- Reports a problem. -/
def report (severity : Severity) (finding : Finding) : Run σ Unit :=
  tell (.problem ⟨severity, finding⟩)

/-- A result as a run. -/
def ofExcept (result : Except Failure α) : Run σ α :=
  match result with
  | .ok a => pure a
  | .error e => throw e

/-- Asks the file system. -/
def askFiles (question : FileSystem → Except Failure α) : Run σ α := do
  ofExcept (question (← get).files)

/-- Changes the file system. -/
def changeFiles (change : FileSystem → Except Failure FileSystem) : Run σ Unit := do
  let files ← askFiles change
  modify fun w => { w with files := files }

/-- Tries a change of the file system; what is done before it fails stays done. -/
def attemptFiles (change : FileSystem → Except Failure Unit × FileSystem) : Run σ Unit := do
  let (ending, files) := change (← get).files
  modify fun w => { w with files := files }
  ofExcept ending

/-- The table at a place. -/
def tableAt (place : Nat) : Run σ Mappings := do return (← get).tables.content place

/-- Makes a table: its place. -/
def newTable (table : Mappings) : Run σ Nat := do
  let w ← get
  set { w with tables := w.tables.add table }
  return w.tables.next

/-- Makes a copy of the table at a place. -/
def copyTable (place : Nat) : Run σ Nat := do newTable (← tableAt place)

/-- Gives the resolver the table at a place to keep. -/
def keepTable (place : Nat) : Run σ Unit :=
  modify fun w => { w with tables := w.tables.keep place }

/-- Runs in a world: how it ends, and the world after it. -/
def runIn (action : Run σ α) (w : World σ) : Except Failure α × World σ := action.run.run w

/-- The log records among events. -/
def records (events : List Event) : List Record :=
  events.filterMap fun
    | .logged r => some r
    | .problem _ => none

end Run

end SchemaGate
