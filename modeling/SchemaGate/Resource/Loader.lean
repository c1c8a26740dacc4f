import SchemaGate.Encoding.Codec
import SchemaGate.Run

/-!
Resource loaders. A loader merges the mapping tables found at a location and opens resources by
path. The directory loader searches an ordered list of directories: in tables an earlier directory
wins key by key, and a resource is opened in the first directory that holds a file at its path.
-/

namespace SchemaGate

/-- A source of mapping tables and resources. -/
structure ResourceLoader (σ : Type) where
  /-- Loads the table at a location: the place of a table, which the loader may use itself. -/
  loadAll : Text → Run σ Nat
  openResource : Text → Run σ Bytes
  /-- How messages show the loader. -/
  description : Text

/-- The directories to search and the encoding of the tables in them. -/
structure DirectoryLoader where
  codecs : Codecs
  searchPaths : List Path
  encoding : Text

namespace DirectoryLoader

/-- The encoding of tables unless another is given. -/
def usualEncoding : Text := "iso-8859-1"

/-- A loader over directories, or over the current one if none is given. -/
def ofPaths (codecs : Codecs) (fs : FileSystem) (searchPaths : List Text) (encoding : Text) :
    DirectoryLoader :=
  ⟨codecs, if searchPaths.isEmpty then [fs.cwdPath] else searchPaths.map Path.ofText, encoding⟩

/-- Where a resource may be, in the order of search. -/
def candidates (d : DirectoryLoader) (path : Text) : List Path :=
  let relative := Path.ofText (path.dropWhile (· = .char '/'))
  d.searchPaths.map fun root => root.join relative

/-- The directories as messages show them. -/
def shownPaths (d : DirectoryLoader) : Text := Text.quotedList (d.searchPaths.map Path.text)

/-- The text of a file, with every line end read as a newline. -/
def readText (codecs : Codecs) (encodingName : Text) (bytes : Bytes) : Except Failure Text := do
  let encoding ← Encoding.find encodingName
  match encoding.decodeAll codecs bytes with
  | .ok t => return t.joinNewlines
  | .error .malformed => throw .undecodable
  | .error .refused => throw .refusedBytes

/-- The table completed with the one at a candidate, if there is a file. -/
def readCandidate {σ : Type} (d : DirectoryLoader) (merged : Mappings) (candidate : Path) :
    Run σ Mappings := do
  if ← Run.askFiles fun fs => fs.isFile candidate.text then
    Run.log .debug .resources ("Reading properties from " ++ candidate.text)
    let bytes ← Run.askFiles fun fs => fs.read candidate.text
    let text ← Run.ofExcept (readText d.codecs d.encoding bytes)
    return Association.complete merged (Table.parse text)
  else return merged

/-- Merges the tables at a location. -/
def loadAll {σ : Type} (d : DirectoryLoader) (location : Text) : Run σ Mappings :=
  (d.candidates location).foldlM d.readCandidate []

/-- The bytes at the first candidate that is a file. -/
def openFirst {σ : Type} : List Path → Run σ (Option Bytes)
  | [] => return none
  | candidate :: rest => do
    if ← Run.askFiles fun fs => fs.isFile candidate.text then
      return some (← Run.askFiles fun fs => fs.read candidate.text)
    else openFirst rest

/-- Opens a resource. -/
def openResource {σ : Type} (d : DirectoryLoader) (path : Text) : Run σ Bytes := do
  match ← openFirst (d.candidates path) with
  | some bytes => return bytes
  | none =>
    throw (.system .notFound ("Resource [" ++ path ++ "] not found in " ++ d.shownPaths))

/-- The directory loader as a resource loader, in any world. -/
def toLoader {σ : Type} (d : DirectoryLoader) : ResourceLoader σ :=
  ⟨fun location => do Run.newTable (← d.loadAll location), d.openResource,
    "DirectoryResourceLoader(" ++ d.shownPaths ++ ")"⟩

end DirectoryLoader

end SchemaGate
