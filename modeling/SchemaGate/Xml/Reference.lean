import SchemaGate.Address
import SchemaGate.Text.Cut
import SchemaGate.Xml.Cursor
import SchemaGate.Xml.Doctype

/-!
References and attribute values. A reference stands for a character or for the replacement text of an
entity. In attribute values references are replaced at once, white space reads as spaces, and where
white space is of no account, spaces as they are written collapse.
-/

namespace SchemaGate.Xml

/-- The entities that need no declaration. -/
def predefined? (name : List Char) : Option Char :=
  (Association.get? (String.ofList name)
    [("lt", '<'), ("gt", '>'), ("amp", '&'), ("quot", '"'), ("apos", '\'')])

namespace Scanner

/-- How deep entities may be nested. -/
def nestingLimit : Nat := 40

/-- How many characters may come out of entities before their number is compared with the size of
the document. -/
def expansionLimit : Nat := 1000000

/-- How many characters a character of the document may become. -/
def expansionFactor : Nat := 5

/-- What a reference costs apart from its characters. -/
def referenceCost : Nat := 20

/-- Counts the characters that come out of an entity; entities that grow out of all proportion are
refused. -/
def charge (n : Nat) : Scanner Unit := do
  modify fun s => { s with expanded := s.expanded + n + referenceCost }
  let s ← get
  if expansionLimit < s.expanded && expansionFactor * s.size < s.expanded then fail

/-- The number that digits spell, as far as it can be one of a character. -/
def numberOf (base : Nat) (digits : List Char) : Nat :=
  digits.foldl (fun n d => min 0x110000 (n * base + Address.hexValue d)) 0

/-- The character of a number, which has to be one that may stand in a document. -/
def characterOf (n : Nat) : Scanner Char :=
  if h : n.isValidChar then
    let c := Char.ofNatAux n h
    if isCharacter c then return c else fail
  else fail

/-- Reads the rest of a character reference, behind `&#`. -/
def characterReference : Scanner Char := do
  let isHex ← accept "x"
  let digits ← spanClass (if isHex then Address.isHexDigit else Char.isDigit)
  expect ";"
  characterOf (numberOf (if isHex then 16 else 10) digits)

/-- Reads the rest of a reference to an entity, behind `&`: its name. -/
def entityName : Scanner (List Char) := do
  let name ← need name?
  expect ";"
  return name

/-- The replacement text of an entity. One that is not declared is a fatal fault only if all
declarations are known; one that is external or not parsed always is. -/
def replacement? (p : Prolog) (name : List Char) : Scanner (Option (List Char)) := do
  match p.entity? (Text.ofChars name) with
  | some (.internal cs) =>
    charge cs.length
    return some cs
  | some _ => fail
  | none =>
    if p.isStandalone || !p.mayMissDeclarations then fail
    complain
    return none

/-! ### Attribute values -/

/-- A character of a value, and whether it is white space as it is written. -/
abbrev ValueCharacter := Char × Bool

/-- A character as it is written in a value. -/
def asValue (c : Char) : ValueCharacter := if isSpace c then (' ', true) else (c, false)

/-- The characters of a reference in a replacement text, from behind the ampersand to before the
semicolon, if it is one to a character. -/
def innerCharacter? (body : List Char) : Option (Scanner Char) :=
  match body with
  | '#' :: 'x' :: digits =>
    some (if !digits.isEmpty && digits.all Address.isHexDigit then characterOf (numberOf 16 digits)
      else fail)
  | '#' :: digits =>
    some (if !digits.isEmpty && digits.all Char.isDigit then characterOf (numberOf 10 digits)
      else fail)
  | _ => (predefined? body).map pure

/-- The characters of a replacement text in a value. The entities that are being replaced may not
turn up again. `inner` replaces those in the text of another one; without it there may be no more of
them inside each other. -/
def expandAround (p : Prolog)
    (inner : Option (List (List Char) → List Char → Scanner (List ValueCharacter)))
    (replaced : List (List Char)) : List Char → Scanner (List ValueCharacter)
  | [] => return []
  | '&' :: rest =>
    match h : cut? [';'] rest with
    | none => fail
    | some (body, after) =>
      have : after.length < rest.length := length_lt_of_cut? (by simp) h
      match innerCharacter? body with
      | some reading => do
        let c ← reading
        return (c, false) :: (← expandAround p inner replaced after)
      | none =>
        match inner with
        | none => fail
        | some expand => do
          if !isName body || replaced.contains body then fail
          let text ← match ← replacement? p body with
            | some cs => expand (body :: replaced) cs
            | none => pure []
          return text ++ (← expandAround p inner replaced after)
  | c :: rest =>
    if c = '<' then fail
    else return asValue c :: (← expandAround p inner replaced rest)
termination_by cs => cs.length

/-- The characters of a replacement text, with at most so many entities inside each other. -/
def expandText (p : Prolog) : Nat → List (List Char) → List Char → Scanner (List ValueCharacter)
  | 0 => expandAround p none
  | depth + 1 => expandAround p (some (expandText p depth))

/-- Reads one piece of a value: a reference, or a run of other characters. -/
def valuePiece (p : Prolog) (quote : Char) : Scanner (List ValueCharacter) := do
  if ← accept "&#" then return [(← characterReference, false)]
  else if ← accept "&" then
    let name ← entityName
    match predefined? name with
    | some c => return [(c, false)]
    | none =>
      match ← replacement? p name with
      | some cs => expandText p nestingLimit [name] cs
      | none => return []
  else
    let cs ← span fun
      | c :: _ => c = quote || c = '<' || c = '&'
      | [] => true
    if cs.isEmpty then fail
    return cs.map asValue

/-- Reads the rest of a value, up to the quote that ends it. -/
def valuePieces (p : Prolog) (quote : Char) : Nat → Scanner (List ValueCharacter)
  | 0 => fail
  | fuel + 1 => do
    if ← accept (String.singleton quote) then return []
    let piece ← valuePiece p quote
    return piece ++ (← valuePieces p quote fuel)

/-- A value in which white space is of no account. -/
def collapse : Bool → List ValueCharacter → List Char
  | _, [] => []
  | atStart, (c, isWritten) :: rest =>
    if isWritten then
      if atStart || rest.isEmpty || (rest.head?.map Prod.snd).getD false then collapse atStart rest
      else c :: collapse false rest
    else c :: collapse false rest

/-- Reads an attribute value, if one comes next. -/
def value? (p : Prolog) (isTokenized : Bool) : Scanner (Option Text) := do
  let quote := (← rest).head?.getD ' '
  if quote = '"' || quote = '\'' then
    advance 1
    let cs ← valuePieces p quote ((← rest).length + 1)
    return some (Text.ofChars (if isTokenized then collapse true cs else cs.map Prod.fst))
  else return none

end Scanner

end SchemaGate.Xml
