import SchemaGate.CommandLine.Grammar
import SchemaGate.Encoding.Basic
import SchemaGate.Files.Path
import SchemaGate.Mode

/-!
The arguments of the program. There are two commands, one to detect the modes of files and one to load
a document; what stands in front of the command holds for both. A value is read when its option is
taken, so that the first fault on the command line is the one that is told.
-/

namespace SchemaGate.CommandLine

/-- What loading a document is told. -/
structure LoadArguments where
  file : Path
  config : Option Path
  mode : Option Mode
  /-- The location of the mapping table, empty if it is not told. -/
  schemas : Text
  searchPaths : List Path

inductive Command where
  | detect (files : List Path) (encoding : Text)
  | load (arguments : LoadArguments)

/-- A command and whether it tells all it does. -/
structure Invocation where
  isVerbose : Bool
  command : Command

/-- The files and directories that a command names. -/
def Command.paths : Command → List Path
  | .detect files _ => files
  | .load a => a.file :: (a.config.toList ++ a.searchPaths)

/-! ### Faults -/

/-- What is wrong with the arguments. -/
inductive Complaint where
  | unread (f : Fault)
  | unknownCommand (word : Text)
  | unknownMode (option : Text) (f : Failure)
  | unknownEncoding (option value : Text)
  /-- The name of an encoding that cannot even be looked up. -/
  | badEncoding (option value : Text)
  | unrecognized (words : List Text)

/-- Why no command is run: the help was asked for, or the arguments are wrong; by the command whose
arguments they are. -/
inductive Stop where
  | help (command : Option Text)
  | usage (command : Option Text) (complaint : Complaint)

/-- The names of the commands. -/
def commandNames : List Text := ["detect", "load"]

/-- A complaint about an option. -/
def about (option message : Text) : Text := "argument " ++ option ++ ": " ++ message

def Fault.message : Fault → Text
  | .ambiguous word names =>
    "ambiguous option: " ++ word ++ " could match " ++ Text.join ", " names
  | .noValue option => about option "expected one argument"
  | .strayValue option value => about option ("ignored explicit argument " ++ value.quoted)
  | .missing place => "the following arguments are required: " ++ place

def Complaint.message : Complaint → Text
  | .unread f => f.message
  | .unknownCommand word =>
    about "command" ("invalid choice: " ++ word.quoted ++ " (choose from "
      ++ Text.join ", " (commandNames.map Text.quoted) ++ ")")
  | .unknownMode option f => about option (f.message?.getD [])
  | .unknownEncoding option value => about option ("unknown encoding: " ++ value)
  | .badEncoding option value =>
    about option ("invalid _encoding_choice value: " ++ value.quoted)
  | .unrecognized words => "unrecognized arguments: " ++ Text.join " " words

/-- The name of the program. -/
def programName : Text := "beanxml"

/-- The name of the program together with a command. -/
def programWith : Option Text → Text
  | none => programName
  | some command => programName ++ " " ++ command

/-- The message that ends a program whose arguments are wrong. -/
def usageMessage (command : Option Text) (c : Complaint) : Text :=
  programWith command ++ ": error: " ++ c.message

/-- How the program or a command is used. -/
def usageText (command : Option Text) : Text :=
  let arguments : String :=
    if command = some "detect" then " [-h] [--encoding ENCODING] files [files ...]"
    else if command = some "load" then
      " [-h] [-c CONFIG] [-m MODE] [--schemas SCHEMAS]\n"
        ++ "                    [-s SEARCH_PATH]\n                    file"
    else " [-h] [-v] \x7bdetect,load\x7d ..."
  "usage: " ++ programWith command ++ arguments ++ "\n"

/-! ### Grammars -/

/-- What options are for. -/
inductive Setting where
  | help
  | verbose
  | encoding
  | config
  | mode
  | schemas
  | searchPath

def helpRule : OptionRule Setting := ⟨.help, ["-h", "--help"], false⟩

def programGrammar : Grammar Setting :=
  ⟨[helpRule, ⟨.verbose, ["-v", "--verbose"], false⟩], "command", .everything⟩

def detectGrammar : Grammar Setting :=
  ⟨[helpRule, ⟨.encoding, ["--encoding"], true⟩], "files", .oneOrMore⟩

def loadGrammar : Grammar Setting :=
  ⟨[helpRule, ⟨.config, ["-c", "--config"], true⟩, ⟨.mode, ["-m", "--mode"], true⟩,
    ⟨.schemas, ["--schemas"], true⟩, ⟨.searchPath, ["-s", "--search-path"], true⟩], "file", .one⟩

/-! ### Values -/

/-- Reads the name of an encoding. -/
def encodingValue (option value : Text) : Except Complaint Text :=
  match Encoding.lookup value with
  | .ok _ => .ok value
  | .error (.unknownEncoding _) => .error (.unknownEncoding option value)
  | .error _ => .error (.badEncoding option value)

/-- Reads the name of a mode. -/
def modeValue (option value : Text) : Except Complaint Mode :=
  (Mode.parse (.text value)).mapError (.unknownMode option)

/-- What detection has been told so far. -/
structure DetectArguments where
  files : List Path
  encoding : Text

/-- Adds what was taken to what detection has been told. -/
def DetectArguments.take (a : DetectArguments) : Taken Setting → Except Stop DetectArguments
  | .words ws => .ok { a with files := ws.map Path.ofText }
  | .option r value =>
    match r.key, value with
    | .help, _ => .error (.help (some "detect"))
    | .encoding, some v => do
      let encoding ← (encodingValue r.shown v).mapError (.usage (some "detect"))
      return { a with encoding := encoding }
    | _, _ => .ok a

/-- Adds what was taken to what loading has been told. -/
def LoadArguments.take (a : LoadArguments) : Taken Setting → Except Stop LoadArguments
  | .words ws => .ok { a with file := Path.ofText (ws.head?.getD []) }
  | .option r value =>
    match r.key, value with
    | .help, _ => .error (.help (some "load"))
    | .config, some v => .ok { a with config := some (Path.ofText v) }
    | .mode, some v => do
      let mode ← (modeValue r.shown v).mapError (.usage (some "load"))
      return { a with mode := some mode }
    | .schemas, some v => .ok { a with schemas := v }
    | .searchPath, some v => .ok { a with searchPaths := a.searchPaths ++ [Path.ofText v] }
    | _, _ => .ok a

/-! ### Commands -/

/-- Reads arguments by a grammar; the words that nothing takes come with them. -/
def readBy {α : Type} (g : Grammar Setting) (command : Option Text)
    (take : α → Taken Setting → Except Stop α) (start : α) (words : List Text) :
    Except Stop (α × List Text) := do
  let reading := g.read words
  let a ← reading.taken.foldlM take start
  match reading.outcome with
  | .ok rest => return (a, rest)
  | .error f => throw (.usage command (.unread f))

/-- Reads a command and its arguments. -/
def readCommand (word : Text) (words : List Text) : Except Stop (Command × List Text) := do
  if word = ("detect" : Text) then
    let (a, rest) ← readBy detectGrammar (some word) DetectArguments.take ⟨[], "utf-8"⟩ words
    return (.detect a.files a.encoding, rest)
  else if word = ("load" : Text) then
    let (a, rest) ← readBy loadGrammar (some word) LoadArguments.take
      ⟨Path.ofText [], none, none, [], []⟩ words
    return (.load a, rest)
  else throw (.usage none (.unknownCommand word))

/-- What the program has been told so far: whether to tell all, and the command with the words that it
does not take. -/
structure ProgramArguments where
  isVerbose : Bool
  command : Option (Command × List Text)

/-- Adds what was taken to what the program has been told. -/
def ProgramArguments.take (a : ProgramArguments) : Taken Setting → Except Stop ProgramArguments
  | .words [] => .ok a
  | .words (word :: words) => do return { a with command := some (← readCommand word words) }
  | .option r _ =>
    match r.key with
    | .help => .error (.help none)
    | .verbose => .ok { a with isVerbose := true }
    | _ => .ok a

/-- Reads the arguments of the program. Every word has to be taken. -/
def Invocation.read (words : List Text) : Except Stop Invocation := do
  let (a, rest) ← readBy programGrammar none ProgramArguments.take ⟨false, none⟩ words
  match a.command with
  | none => throw (.usage none (.unread (.missing programGrammar.place)))
  | some (command, more) =>
    match rest ++ more with
    | [] => return ⟨a.isVerbose, command⟩
    | words => throw (.usage none (.unrecognized words))

end SchemaGate.CommandLine
