import SchemaGate.CommandLine.Run

/-!
The program. It takes a picture of the files that its command may need, those below the current
directory and those that its arguments name elsewhere, runs the command on that picture, and writes
what the command wants written.
-/

namespace SchemaGate.Main

open CommandLine

/-- How deep directories are looked into. -/
def depthLimit : Nat := 64

/-- The file system with an entry added, if it can be. -/
def added (fs : FileSystem) (result : Except Failure FileSystem) : FileSystem :=
  match result with
  | .ok fs => fs
  | .error _ => fs

/-- Adds a file, or a directory with all in it, to a picture. What cannot be read is left out. -/
def picture : Nat → FileSystem → IO.FS.DirEntry → IO FileSystem
  | 0, fs, _ => return fs
  | depth + 1, fs, entry => do
    let place : Text := entry.path.toString
    try
      if ← entry.path.isDir then
        let mut fs := added fs (fs.makeDirectories (Path.ofText place))
        for e in ← entry.path.readDir do
          fs ← picture depth fs e
        return fs
      else
        let bytes ← IO.FS.readBinFile entry.path
        return added fs (fs.writeTree place bytes.toList)
    catch _ => return fs

/-- Adds what is at a place given by names from the root. -/
def pictureAt (fs : FileSystem) (names : List String) : IO FileSystem :=
  match names.getLast? with
  | none => return fs
  | some name => picture depthLimit fs ⟨"/" ++ "/".intercalate names.dropLast, name⟩

/-- The names of a path that lead to it from the root, if they are strings. -/
def namesFromRoot (fs : FileSystem) (p : Path) : Option (List String) :=
  (Path.ofText (fs.absolute p)).names.mapM Text.toString?

/-- A picture of the files that a command may need. -/
def pictureFor (c : Command) : IO FileSystem := do
  let here := Path.ofText (← IO.currentDir).toString
  let start := FileSystem.empty here.names
  let mut fs ← pictureAt start ((here.names.mapM Text.toString?).getD [])
  for p in c.paths do
    if !(fs.pathExists p.text).toOption.getD true then
      fs ← pictureAt fs ((namesFromRoot fs p).getD [])
  return fs

/-- A text as a string; surrogates are left out. -/
def shown (t : Text) : String := String.ofList (t.filterMap CodePoint.char?)

/-- Writes what a command does, and gives its status. -/
def write (o : Outcome) : IO UInt32 := do
  for r in o.records do
    IO.eprintln (r.topic.name ++ " - " ++ r.level.name ++ " - " ++ shown r.text)
  IO.print (shown o.output)
  match o.ending with
  | .ok status => return status.toUInt32
  | .error f =>
    IO.eprintln (shown (f.message?.getD "the command failed"))
    return 1

end SchemaGate.Main

open SchemaGate CommandLine in
/-- Runs the program on its arguments. -/
def main (words : List String) : IO UInt32 := do
  match Invocation.read (words.map Text.ofString) with
  | .error (.help command) =>
    IO.print (Main.shown (usageText command))
    return 0
  | .error (.usage command complaint) =>
    IO.eprint (Main.shown (usageText command))
    IO.eprintln (Main.shown (usageMessage command complaint))
    return 2
  | .ok i => Main.write (i.run .builtIn (← Main.pictureFor i.command))
