import SchemaGate.Resource.InputSource
import SchemaGate.Resource.Loader
import SchemaGate.Text.Cut

/-!
Schema resolvers. A resolver maps system identifiers to resources through a mapping table. The table
is loaded when it is first needed, and a copy of it is kept; a load that fails leaves nothing behind, so
the next need tries again. Only copies of that copy are handed out. An `https:` identifier without an entry
of its own uses the entry of the same identifier with `http:`.
-/

namespace SchemaGate

/-- Where to find the table, and who loads it. -/
structure SchemaResolver (σ : Type) where
  loader : ResourceLoader σ
  location : Text

namespace SchemaResolver

variable {σ : Type}

/-- Where the table is unless another location is given. -/
def usualLocation : Text := "META-INF/beanxml.schemas"

/-- A resolver for the table at a location, which may not be blank. -/
def create (loader : ResourceLoader σ) (location : Text) : Except Failure (SchemaResolver σ) :=
  if location.isBlank then .error .blankLocation else .ok ⟨loader, location⟩

/-- A failed load as the resolver reports it: the system's refusals and bytes that do not decode
name the location, anything else stays as it is. -/
def loadFailure (location : Text) (f : Failure) : Failure :=
  match f with
  | .system .. | .undecodable => .mapping location f
  | f => f

/-- Loads the table: the place of a copy. -/
def loadTable (r : SchemaResolver σ) : Run σ Nat := do
  Run.log .debug .resolver ("Loading schema mappings from [" ++ r.location ++ "]")
  let place ← tryCatch (r.loader.loadAll r.location) fun f => throw (loadFailure r.location f)
  let table ← Run.tableAt place
  Run.log .debug .resolver ("Loaded " ++ Text.ofNat table.length ++ " schema mapping(s)")
  Run.copyTable place

/-- The place of the table, which is loaded on first need. -/
def ownTable (r : SchemaResolver σ) : Run σ Nat := do
  match (← get).tables.kept with
  | some place => return place
  | none =>
    let place ← r.loadTable
    Run.keepTable place
    return place

/-- The table, loaded on first need. -/
def mappings (r : SchemaResolver σ) : Run σ Mappings := do Run.tableAt (← r.ownTable)

/-- The table as it is handed out: the place of another copy. -/
def shownTable (r : SchemaResolver σ) : Run σ Nat := do Run.copyTable (← r.ownTable)

/-- An identifier that is mapped through its `http:` form. -/
def plainForm? (systemId : Text) : Option Text :=
  (dropPrefix? ("https:" : Text) systemId).map fun rest => "http:" ++ rest

/-- The location that a table has for an identifier. -/
def locationIn (table : Mappings) (systemId : Text) : Option Text :=
  match Association.get? systemId table with
  | some location => some location
  | none => (plainForm? systemId).bind fun plain => Association.get? plain table

/-- An optional identifier as messages show it. -/
def shownId (id : Option Text) : Text := id.getD ("None" : Text)

/-- Runs an action and hands out how it ended. -/
def observe (action : Run σ Bytes) : Run σ (Except Failure Bytes) :=
  tryCatch (do return .ok (← action)) fun f => return .error f

/-- Opens the resource that a table has for an identifier. -/
def serve (r : SchemaResolver σ) (publicId : Option Text) (id : Text) (table : Mappings) :
    Run σ (Option InputSource) := do
  match locationIn table id with
  | none => return none
  | some location =>
    match ← observe (r.loader.openResource location) with
    | .ok bytes =>
      Run.log .debug .resolver ("Found XML schema [" ++ id ++ "] at: " ++ location)
      return some (.ofBytes bytes publicId (some id))
    | .error f =>
      if f.isNotFound then
        Run.log .debug .resolver
          ("Could not find XML schema [" ++ id ++ "]: " ++ f.message?.getD [])
        return none
      else throw f

/-- Resolves an entity to a local resource, if it has one. -/
def resolve (r : SchemaResolver σ) (publicId systemId : Option Text) :
    Run σ (Option InputSource) := do
  Run.log .debug .resolver ("Trying to resolve XML entity with public id [" ++ shownId publicId
    ++ "] and system id [" ++ shownId systemId ++ "]")
  match systemId with
  | none => return none
  | some id => r.serve publicId id (← r.mappings)

/-- The resolver in one line; this never loads the table. -/
def text (r : SchemaResolver σ) (table : Option Mappings) : Text :=
  match table with
  | none =>
    "EntityResolver using schema mappings from [" ++ r.location ++ "] (not loaded)"
  | some table => "EntityResolver using schema mappings " ++ Text.quotedTable table

/-- The resolver with its parts; this never loads the table. -/
def description (r : SchemaResolver σ) (table : Option Mappings) : Text :=
  let loaded : Text := match table with
    | none => "not loaded"
    | some table => Text.ofNat table.length ++ " mapping(s)"
  "SchemaResolver(location=" ++ r.location.quoted ++ ", loader=" ++ r.loader.description ++ ", "
    ++ loaded ++ ")"

end SchemaResolver

end SchemaGate
