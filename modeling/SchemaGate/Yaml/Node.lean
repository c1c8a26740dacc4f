import SchemaGate.Association
import SchemaGate.Yaml.Token.Lexer

/-!
Nodes of YAML: scalars, sequences and mappings, each with its tag in full. An alias stands for the
node of its anchor; inside that node itself it stands for nothing. A text holds at most one document.
-/

namespace SchemaGate.Yaml

/-- A node. -/
inductive Node where
  | scalar (tag text : Text)
  | sequence (tag : Text) (items : List Node)
  | mapping (tag : Text) (pairs : List (Node × Node))
  deriving Inhabited

/-- A tag of the format itself. -/
def standardTag (name : String) : Text := "tag:yaml.org,2002:" ++ name

/-- The tag of what a plain scalar means. -/
def Kind.tag : Kind → Text
  | .null => standardTag "null"
  | .bool => standardTag "bool"
  | .int => standardTag "int"
  | .float => standardTag "float"
  | .timestamp => standardTag "timestamp"
  | .merge => standardTag "merge"
  | .value => standardTag "value"
  | .text => standardTag "str"

/-- A scalar that is not written. -/
def emptyNode : Node := .scalar Kind.null.tag []

/-- The state of reading nodes: the tokens left, the anchors and the tag handles so far. -/
structure Composer where
  tokens : List Token
  anchors : List (Text × Node)
  handles : List (Text × Text)

/-- A step of reading nodes. -/
abbrev Compose (α : Type) := StateT Composer (Except Fault) α

namespace Compose

def fail {α : Type} : Compose α := throw .malformed

/-- The next token. -/
def peek : Compose (Option Token) := return (← get).tokens.head?

/-- Takes the next token away. -/
def skip : Compose Unit := modify fun s => { s with tokens := s.tokens.drop 1 }

/-- The anchor and the tag in front of a node, in either order. -/
def properties : Compose (Option Text × Option (Option Text × Text)) := do
  match (← get).tokens with
  | .anchor name :: .tag handle suffix :: rest =>
    modify fun s => { s with tokens := rest }
    return (some name, some (handle, suffix))
  | .tag handle suffix :: .anchor name :: rest =>
    modify fun s => { s with tokens := rest }
    return (some name, some (handle, suffix))
  | .anchor name :: rest =>
    modify fun s => { s with tokens := rest }
    return (some name, none)
  | .tag handle suffix :: rest =>
    modify fun s => { s with tokens := rest }
    return (none, some (handle, suffix))
  | _ => return (none, none)

/-- A tag in full. -/
def fullTag : Option (Option Text × Text) → Compose (Option Text)
  | none => return none
  | some (none, suffix) => return some suffix
  | some (some handle, suffix) => do
    match Association.get? handle (← get).handles with
    | some start => return some (start ++ suffix)
    | none => fail

/-- Is the tag left to be found out? -/
def isOpenTag (tag : Option Text) : Bool := tag.isNone || tag = some ("!" : Text)

/-- The tag of a scalar. -/
def scalarTag (tag : Option Text) (text : Text) (plain : Bool) : Text :=
  match tag with
  | none => if plain then (kindOf text).tag else standardTag "str"
  | some t => if t = ("!" : Text) then (kindOf text).tag else t

/-- The tag of a sequence or mapping. -/
def groupTag (tag : Option Text) (usual : String) : Text :=
  if isOpenTag tag then standardTag usual else tag.getD []

/-- Does a node end before this token, in a block mapping? -/
def endsPair : Option Token → Bool
  | some .key | some .value | some .blockEnd => true
  | _ => false

/-- Does a node end before this token, in a flow mapping or sequence? -/
def endsFlow : Option Token → Bool
  | some .flowEntry | some .flowMappingEnd | some .flowSequenceEnd => true
  | _ => false

mutual

/-- A node. A list may stand at the depth of the key it belongs to when `indentless`. -/
def node (block indentless : Bool) : Nat → Compose Node
  | 0 => fail
  | fuel + 1 => do
    match ← peek with
    | some (.alias name) =>
      skip
      match Association.get? name (← get).anchors with
      | some n => return n
      | none => fail
    | _ =>
      let (anchor, written) ← properties
      let tag ← fullTag written
      if let some name := anchor then
        if Association.has name (← get).anchors then fail
        modify fun s => { s with anchors := Association.put name emptyNode s.anchors }
      let n ← content block indentless tag (anchor.isSome || tag.isSome) fuel
      if let some name := anchor then
        modify fun s => { s with anchors := Association.put name n s.anchors }
      return n

/-- What stands behind the anchor and the tag. -/
def content (block indentless : Bool) (tag : Option Text) (mayBeEmpty : Bool) : Nat → Compose Node
  | 0 => fail
  | fuel + 1 => do
    match ← peek with
    | some (.scalar text plain) =>
      skip
      return .scalar (scalarTag tag text plain) text
    | some .flowSequenceStart =>
      skip
      return .sequence (groupTag tag "seq") (← flowItems true fuel)
    | some .flowMappingStart =>
      skip
      return .mapping (groupTag tag "map") (← flowPairs true fuel)
    | token =>
      match token, block, indentless with
      | some .blockEntry, _, true =>
        return .sequence (groupTag tag "seq") (← looseItems fuel)
      | some .blockSequenceStart, true, _ =>
        skip
        return .sequence (groupTag tag "seq") (← blockItems fuel)
      | some .blockMappingStart, true, _ =>
        skip
        return .mapping (groupTag tag "map") (← blockPairs fuel)
      | _, _, _ =>
        if mayBeEmpty then
          return .scalar (if isOpenTag tag then Kind.null.tag else tag.getD []) []
        else fail

/-- The items of a block sequence up to its end. -/
def blockItems : Nat → Compose (List Node)
  | 0 => fail
  | fuel + 1 => do
    match ← peek with
    | some .blockEntry =>
      skip
      let item ← match ← peek with
        | some .blockEntry | some .blockEnd => pure emptyNode
        | _ => node true false fuel
      return item :: (← blockItems fuel)
    | some .blockEnd =>
      skip
      return []
    | _ => fail

/-- The items of a list that stands at the depth of its key. -/
def looseItems : Nat → Compose (List Node)
  | 0 => fail
  | fuel + 1 => do
    match ← peek with
    | some .blockEntry =>
      skip
      let next ← peek
      let isEmpty := endsPair next || (next matches some .blockEntry)
      let item ← if isEmpty then pure emptyNode else node true false fuel
      return item :: (← looseItems fuel)
    | _ => return []

/-- The pairs of a block mapping up to its end. -/
def blockPairs : Nat → Compose (List (Node × Node))
  | 0 => fail
  | fuel + 1 => do
    match ← peek with
    | some .key =>
      skip
      let key ← if endsPair (← peek) then pure emptyNode else node true true fuel
      let value ← match ← peek with
        | some .value => do
          skip
          if endsPair (← peek) then pure emptyNode else node true true fuel
        | _ => pure emptyNode
      return (key, value) :: (← blockPairs fuel)
    | some .blockEnd =>
      skip
      return []
    | _ => fail

/-- A comma between two entries in flow brackets; before the first one there is none. -/
def flowComma (first : Bool) : Compose Unit := do
  if !first then
    match ← peek with
    | some .flowEntry => skip
    | _ => fail

/-- A value behind a key in flow brackets, if there is one. -/
def flowValue : Nat → Compose Node
  | 0 => fail
  | fuel + 1 => do
    match ← peek with
    | some .value =>
      skip
      if endsFlow (← peek) then return emptyNode else node false false fuel
    | _ => return emptyNode

/-- A key in flow brackets, from behind its mark. -/
def flowKey : Nat → Compose Node
  | 0 => fail
  | fuel + 1 => do
    let next ← peek
    if endsFlow next || (next matches some .value) then return emptyNode
    else node false false fuel

/-- The items of a flow sequence up to its end. A pair among them is a mapping of its own. -/
def flowItems (first : Bool) : Nat → Compose (List Node)
  | 0 => fail
  | fuel + 1 => do
    match ← peek with
    | some .flowSequenceEnd =>
      skip
      return []
    | _ =>
      flowComma first
      match ← peek with
      | some .key =>
        skip
        let key ← flowKey fuel
        let value ← flowValue fuel
        return .mapping (standardTag "map") [(key, value)] :: (← flowItems false fuel)
      | some .flowSequenceEnd =>
        skip
        return []
      | _ =>
        let item ← node false false fuel
        return item :: (← flowItems false fuel)

/-- The pairs of a flow mapping up to its end. An entry that is no pair is a key without a value. -/
def flowPairs (first : Bool) : Nat → Compose (List (Node × Node))
  | 0 => fail
  | fuel + 1 => do
    match ← peek with
    | some .flowMappingEnd =>
      skip
      return []
    | _ =>
      flowComma first
      match ← peek with
      | some .key =>
        skip
        let key ← flowKey fuel
        let value ← flowValue fuel
        return (key, value) :: (← flowPairs false fuel)
      | some .flowMappingEnd =>
        skip
        return []
      | _ =>
        let key ← node false false fuel
        return (key, emptyNode) :: (← flowPairs false fuel)

end

/-- The directives in front of a document. -/
def directives (versionSeen : Bool) : Nat → Compose Unit
  | 0 => fail
  | fuel + 1 => do
    match ← peek with
    | some (.directiveYaml major) =>
      if versionSeen || major ≠ 1 then fail
      skip
      directives true fuel
    | some (.directiveTag handle start) =>
      if Association.has handle (← get).handles then fail
      modify fun s => { s with handles := s.handles ++ [(handle, start)] }
      skip
      directives versionSeen fuel
    | some .directiveOther =>
      skip
      directives versionSeen fuel
    | _ => return

/-- The handles that need no directive. -/
def usualHandles : List (Text × Text) := [("!", "!"), ("!!", standardTag "")]

/-- Skips the marks of a document's end. -/
def skipEnds : Nat → Compose Unit
  | 0 => return
  | fuel + 1 => do
    if (← peek) matches some .documentEnd then
      skip
      skipEnds fuel

/-- The root node of the only document, if there is one. -/
def document (fuel : Nat) : Compose (Option Node) := do
  let root ← match ← peek with
    | none => return none
    | some (.directiveYaml _) | some (.directiveTag ..) | some .directiveOther
    | some .documentStart => do
      directives false fuel
      modify fun s => { s with handles := Association.complete s.handles usualHandles }
      if !((← peek) matches some .documentStart) then fail
      skip
      match ← peek with
      | none | some (.directiveYaml _) | some (.directiveTag ..) | some .directiveOther
      | some .documentStart | some .documentEnd => pure emptyNode
      | _ => node true false fuel
    | _ => do
      modify fun s => { s with handles := usualHandles }
      node true false fuel
  skipEnds fuel
  if (← peek).isNone then return some root else fail

end Compose

/-- The root node of a text's only document, if there is one. -/
def rootOf (t : Text) : Except Fault (Option Node) := do
  let tokens ← tokensOf t
  let fuel := 4 * tokens.length + 8
  return (← (Compose.document fuel).run ⟨tokens, [], []⟩).1

end SchemaGate.Yaml
