import SchemaGate.Files.Path

/-!
The file system as a value: entries under the root, each a directory or a file by its number, and
the bytes of every file. An entry that is removed leaves the bytes to whoever has the file open.
Names are walked from left to right; each step must start in a directory that exists. An obstacle may
stand at a place: the system then refuses to read or to change what is there. What an operation of
several steps has done before it fails stays done.
-/

namespace SchemaGate

/-- What a name leads to. -/
inductive FileEntry where
  | directory
  | file (number : Nat)
  deriving DecidableEq

/-- What stands in the way of a program. To read is to open a file, or to look up a name in a
directory; to change is to write a file, or to add a name to a directory or to remove one. -/
inductive Obstacle where
  /-- Nothing is permitted. -/
  | locked
  /-- Reading is permitted, and no change. -/
  | readOnly
  /-- The device fails. -/
  | broken
  deriving DecidableEq

namespace Obstacle

/-- What reading comes to behind the obstacle. -/
def onReading : Obstacle → Except SystemError Unit
  | locked => .error .permission
  | readOnly => .ok ()
  | broken => .error .inputOutput

/-- Why nothing is changed behind the obstacle. -/
def onChange : Obstacle → SystemError
  | locked | readOnly => .permission
  | broken => .inputOutput

end Obstacle

/-- Entries by the names that lead to them from the root, and the bytes of the files by number.
`cwd` is the current directory. -/
structure FileSystem where
  cwd : List Text
  entries : List (List Text × FileEntry)
  contents : List Bytes
  obstacles : List (List Text × Obstacle) := []
  /-- Every file has its bytes. -/
  numbered : ∀ e ∈ entries, ∀ number, e.2 = .file number → number < contents.length := by simp
  /-- An obstacle stands at the root or at an entry. -/
  grounded : ∀ o ∈ obstacles, o.1 = [] ∨ o.1 ∈ entries.map Prod.fst := by simp

namespace FileSystem

/-! ### Changes -/

/-- The file system with other bytes in a file. -/
def withBytes (fs : FileSystem) (number : Nat) (bytes : Bytes) : FileSystem :=
  { fs with
    contents := fs.contents.set number bytes
    numbered := by simpa using fs.numbered }

/-- The file system with one more file. -/
def withFile (fs : FileSystem) (place : List Text) (bytes : Bytes) : FileSystem :=
  { fs with
    entries := fs.entries ++ [(place, .file fs.contents.length)]
    contents := fs.contents ++ [bytes]
    numbered := by
      intro e he number hfile
      rw [List.length_append, List.length_singleton]
      rcases List.mem_append.1 he with he | he
      · have := fs.numbered e he number hfile
        omega
      · cases List.mem_singleton.1 he
        cases hfile
        omega
    grounded := fun o ho => (fs.grounded o ho).imp_right fun h => by simp [h] }

/-- The file system with one more directory. -/
def withDirectory (fs : FileSystem) (place : List Text) : FileSystem :=
  { fs with
    entries := fs.entries ++ [(place, .directory)]
    numbered := by
      intro e he number hfile
      rcases List.mem_append.1 he with he | he
      · exact fs.numbered e he number hfile
      · cases List.mem_singleton.1 he
        cases hfile
    grounded := fun o ho => (fs.grounded o ho).imp_right fun h => by simp [h] }

/-- The file system without the entry at a place. -/
def without (fs : FileSystem) (place : List Text) : FileSystem :=
  { fs with
    entries := fs.entries.filter fun e => e.1 ≠ place
    obstacles := fs.obstacles.filter fun o => o.1 ≠ place
    numbered := fun e he => fs.numbered e (List.mem_filter.1 he).1
    grounded := by
      intro o ho
      obtain ⟨ho, hne⟩ := List.mem_filter.1 ho
      refine (fs.grounded o ho).imp_right fun h => ?_
      obtain ⟨e, he, heq⟩ := List.mem_map.1 h
      exact List.mem_map.2 ⟨e, List.mem_filter.2 ⟨he, heq ▸ hne⟩, heq⟩ }

/-! ### Paths -/

/-- The longest name, in bytes. -/
def nameLimit : Nat := 255

/-- The longest path, in bytes. -/
def pathLimit : Nat := 4095

/-- The number of bytes of a code point in a path. -/
def byteWidth : CodePoint → Nat
  | .char c => c.utf8Size
  | .surrogate _ => 1

/-- The number of bytes of a text in a path. -/
def byteLength (t : Text) : Nat := t.foldl (fun n c => n + byteWidth c) 0

/-- Can the code point stand in a path? Of the surrogates those can that stand for a byte. -/
def isPathCharacter : CodePoint → Bool
  | .char _ => true
  | .surrogate i => 0x480 ≤ i.val && i.val ≤ 0x4FF

/-- A file system with nothing but its current directory. -/
def empty (cwd : List Text) : FileSystem :=
  { cwd := cwd
    entries := (List.range cwd.length).map fun n => (cwd.take (n + 1), .directory)
    contents := [] }

/-- The entry at the end of names from the root. -/
def entry? (fs : FileSystem) (place : List Text) : Option FileEntry :=
  if place.isEmpty then some .directory
  else (fs.entries.find? fun e => e.1 = place).map (·.2)

/-- What stands in the way at a place, if anything does. -/
def obstacle? (fs : FileSystem) (place : List Text) : Option Obstacle :=
  (fs.obstacles.find? fun o => o.1 = place).map (·.2)

/-- Does the system let a program read what is at a place? -/
def mayRead (fs : FileSystem) (place : List Text) : Except SystemError Unit :=
  match fs.obstacle? place with
  | some o => o.onReading
  | none => .ok ()

/-- Does the system let a program change what is at a place? -/
def mayChange (fs : FileSystem) (place : List Text) : Except SystemError Unit :=
  match fs.obstacle? place with
  | some o => .error o.onChange
  | none => .ok ()

/-- Where a name in a directory leads to. -/
def enter (place : List Text) (name : Text) : Except SystemError (List Text) :=
  if name = [.char '.'] then .ok place
  else if name = [.char '.', .char '.'] then .ok place.dropLast
  else if nameLimit < byteLength name then .error .nameTooLong
  else .ok (place ++ [name])

/-- One step of a walk, from a place that must be a directory. -/
def step (fs : FileSystem) (place : List Text) (name : Text) : Except SystemError (List Text) :=
  match fs.entry? place with
  | none => .error .notFound
  | some (.file _) => .error .notADirectory
  | some .directory => if name = [] then .ok place else do
    fs.mayRead place
    enter place name

/-- Walks along names. -/
def walk (fs : FileSystem) : List Text → List Text → Except SystemError (List Text)
  | place, [] => .ok place
  | place, name :: names =>
    match fs.step place name with
    | .error e => .error e
    | .ok place => fs.walk place names

/-- Where a path leads to; the last name need not exist. -/
def locate (fs : FileSystem) (path : Text) : Except SystemError (List Text) :=
  if path.isEmpty then .error .notFound
  else if pathLimit < byteLength path then .error .nameTooLong
  else
    let start := if path.head? = some (.char '/') then [] else fs.cwd
    fs.walk start (Path.splitSlashes path)

/-- Why a text is no path, if it is none. -/
def badPath? (path : Text) : Option Failure :=
  if !path.all isPathCharacter then some .unencodable
  else if path.contains (.char '\x00') then some .nullByte
  else none

/-- Runs an operation at the place of a path, and says which path was refused. -/
def at? {α : Type} (fs : FileSystem) (path : Text)
    (operation : List Text → Except SystemError α) : Except Failure α :=
  match badPath? path with
  | some f => .error f
  | none =>
    match fs.locate path >>= operation with
    | .ok a => .ok a
    | .error e => .error (.ofSystem e path)

/-- The entry a path leads to. -/
def stat (fs : FileSystem) (path : Text) : Except Failure FileEntry :=
  fs.at? path fun place =>
    match fs.entry? place with
    | some e => .ok e
    | none => .error .notFound

/-- An answer about what is there: that nothing is there is no failure. -/
def whether (result : Except Failure Bool) : Except Failure Bool :=
  match result with
  | .error (.system .notFound _) | .error (.system .notADirectory _)
  | .error .nullByte | .error .unencodable => .ok false
  | r => r

/-- Is there anything at the path? -/
def pathExists (fs : FileSystem) (path : Text) : Except Failure Bool :=
  whether ((fs.stat path).map fun _ => true)

/-- Is there a file at the path? -/
def isFile (fs : FileSystem) (path : Text) : Except Failure Bool :=
  whether ((fs.stat path).map fun
    | .file _ => true
    | .directory => false)

/-- Opens a file for reading: its number. -/
def openFile (fs : FileSystem) (path : Text) : Except Failure Nat :=
  fs.at? path fun place =>
    match fs.entry? place with
    | some (.file number) => do
      fs.mayRead place
      return number
    | some .directory => .error .isADirectory
    | none => .error .notFound

/-- The bytes of an open file. -/
def content (fs : FileSystem) (number : Nat) : Bytes := (fs.contents[number]?).getD []

/-- The bytes of the file at a path. -/
def read (fs : FileSystem) (path : Text) : Except Failure Bytes :=
  (fs.openFile path).map fs.content

/-- Is the directory that holds the place there, and may names be added to it and removed? -/
def parentTakes (fs : FileSystem) (place : List Text) : Except SystemError Unit :=
  match fs.entry? place.dropLast with
  | some .directory => fs.mayChange place.dropLast
  | some (.file _) => .error .notADirectory
  | none => .error .notFound

/-- Writes a file, creating it if it is not there. -/
def write (fs : FileSystem) (path : Text) (bytes : Bytes) : Except Failure FileSystem :=
  fs.at? path fun place =>
    match fs.entry? place with
    | some .directory => .error .isADirectory
    | some (.file number) => do
      fs.mayChange place
      return fs.withBytes number bytes
    | none => do
      fs.parentTakes place
      return fs.withFile place bytes

/-- Removes a file. -/
def remove (fs : FileSystem) (path : Text) : Except Failure FileSystem :=
  fs.at? path fun place =>
    match fs.entry? place with
    | some .directory => .error .isADirectory
    | some (.file _) => do
      fs.parentTakes place
      return fs.without place
    | none => .error .notFound

/-- Makes one directory. -/
def makeDirectory (fs : FileSystem) (path : Text) : Except Failure FileSystem :=
  fs.at? path fun place =>
    match fs.entry? place with
    | some _ => .error .alreadyExists
    | none => do
      fs.parentTakes place
      return fs.withDirectory place

/-- Is there a directory at the path? -/
def isDirectory (fs : FileSystem) (path : Text) : Except Failure Bool :=
  whether ((fs.stat path).map (· = .directory))

/-- Makes one directory unless it is there already. -/
def ensureDirectory (fs : FileSystem) (path : Text) : Except Failure FileSystem :=
  match fs.makeDirectory path with
  | .error (.system fault message) =>
    match fs.isDirectory path with
    | .ok true => if fault = .notFound then .error (.system fault message) else .ok fs
    | .ok false => .error (.system fault message)
    | .error e => .error e
  | r => r

/-- How a change ended, and the file system after it. -/
def attempt (fs : FileSystem) : Except Failure FileSystem → Except Failure Unit × FileSystem
  | .ok fs' => (.ok (), fs')
  | .error f => (.error f, fs)

/-- Makes the directory of a root and names, the last name first, with the directories above it. -/
def ensureTree (fs : FileSystem) (root : Text) : List Text → Except Failure Unit × FileSystem
  | [] => fs.attempt (fs.ensureDirectory (Path.text ⟨root, []⟩))
  | name :: above =>
    let path := Path.text ⟨root, (name :: above).reverse⟩
    match fs.ensureDirectory path with
    | .error (.system .notFound _) =>
      match fs.ensureTree root above with
      | (.ok (), fs) => fs.attempt (fs.ensureDirectory path)
      | r => r
    | r => fs.attempt r

/-- Makes a directory and all directories above it that are missing. Those that were made before a
failure stay. -/
def makeTree (fs : FileSystem) (p : Path) : Except Failure Unit × FileSystem :=
  fs.ensureTree p.root p.names.reverse

/-- The file system with a directory and all directories above it, if they can be made. -/
def makeDirectories (fs : FileSystem) (p : Path) : Except Failure FileSystem :=
  match fs.makeTree p with
  | (.ok (), fs) => .ok fs
  | (.error f, _) => .error f

/-- Writes a file together with the directories above it. -/
def writeTree (fs : FileSystem) (path : Text) (bytes : Bytes) : Except Failure FileSystem := do
  let p := Path.ofText path
  (← fs.makeDirectories p.parent).write p.text bytes

/-- The absolute path that a path stands for. -/
def absolute (fs : FileSystem) (p : Path) : Text :=
  let names := if p.root.isEmpty then fs.cwd ++ p.names else p.names
  "/" ++ Text.join "/" (Path.climb names)

/-- The current directory as a path. -/
def cwdPath (fs : FileSystem) : Path := ⟨"/", fs.cwd⟩

/-- The paths of everything below the current directory, in the order of their code points. -/
def listing (fs : FileSystem) : List Text :=
  let below := fs.entries.filterMap fun e =>
    if fs.cwd.isPrefixOf e.1 && fs.cwd ≠ e.1 then
      some (Text.join "/" (e.1.drop fs.cwd.length))
    else none
  below.mergeSort Text.isBeforeOrSame

end FileSystem

end SchemaGate
