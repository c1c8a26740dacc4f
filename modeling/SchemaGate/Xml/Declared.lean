import SchemaGate.Xml.Charset
import SchemaGate.Xml.Markup
import SchemaGate.Xml.Reference

/-!
Declarations. The declaration at the start of a document or of an external entity tells its version
and encoding; the declarations of a document type tell what elements, attributes, entities and
notations there are. Each is read here on its own, with all parameter entities in it replaced.
-/

namespace SchemaGate.Xml

/-- What the declaration at the start of a document says. -/
structure DocumentDeclaration where
  encoding : Option Encoding
  isStandalone : Bool

/-- A declaration of a document type. -/
inductive MarkupDeclaration where
  | element (name : Text) (content : Content)
  | attributes (declarations : List AttributeDeclaration)
  | entity (name : Text) (meaning : Entity)
  | parameter (name : Text) (meaning : Entity)
  | notationName (name : Text)

namespace Scanner

/-! ### The start of a document -/

/-- Reads an equals sign with white space around it. -/
def equalsSign : Scanner Unit := do
  let _ ← spaces
  expect "="
  let _ ← spaces

/-- Reads a quoted text of a class of characters. -/
def quotedClass (p : Char → Bool) : Scanner (List Char) := do
  let quote := if ← looksAt "'" then "'" else "\""
  expect quote
  let cs ← spanClass p
  expect quote
  return cs

/-- Reads the version, behind its word: anything like 1.0 will do, but only 1.0 does without a
warning. -/
def version : Scanner Unit := do
  equalsSign
  match ← quotedClass fun c => c.isDigit || c = '.' with
  | d :: '.' :: minor =>
    if !d.isDigit || minor.contains '.' || d ≠ '1' then fail
    if minor ≠ ['0'] then warn
  | _ => fail

/-- Reads the encoding, behind its word. One that was told by the first bytes stays. -/
def encodingName (isCertain : Bool) : Scanner (Option Encoding) := do
  equalsSign
  let name ← quotedClass fun c => c.isAlphanum || c = '.' || c = '_' || c = '-'
  if !((name.head?.map Char.isAlpha).getD false) then fail
  if isCertain then return none
  match declaredEncoding? name with
  | some e => return some e
  | none => fail

/-- Does a declaration start here? -/
def atDeclaration : Scanner Bool := do
  match (← rest).drop 5 with
  | c :: _ => return (← looksAt "<?xml") && isSpace c
  | [] => return false

/-- Reads the declaration at the start of a document, if there is one. -/
def documentDeclaration (isCertain : Bool) : Scanner DocumentDeclaration := do
  if !(← atDeclaration) then return ⟨none, false⟩
  expect "<?xml"
  let _ ← spaces
  expect "version"
  version
  let apart ← spaces
  if ← accept "?>" then return ⟨none, false⟩
  if !apart then fail
  let encoding ← if ← accept "encoding" then encodingName isCertain else pure none
  let apart ← spaces
  if ← accept "?>" then return ⟨encoding, false⟩
  if encoding.isSome && !apart then fail
  expect "standalone"
  equalsSign
  let answer ← quotedClass Char.isAlpha
  if answer ≠ "yes".toList && answer ≠ "no".toList then fail
  let _ ← spaces
  expect "?>"
  return ⟨encoding, answer = "yes".toList⟩

/-- Reads the declaration at the start of an external entity, if there is one. -/
def textDeclaration (isCertain : Bool) : Scanner (Option Encoding) := do
  if !(← atDeclaration) then return none
  expect "<?xml"
  let _ ← spaces
  if ← accept "version" then
    version
    someSpaces
  expect "encoding"
  let encoding ← encodingName isCertain
  let _ ← spaces
  expect "?>"
  return encoding

/-! ### Identifiers -/

/-- Reads a public identifier. -/
def publicId : Scanner Text := do
  let quote := if ← looksAt "'" then '\'' else '"'
  expect (String.singleton quote)
  let cs ← spanClass fun c => isPublicIdCharacter c && c ≠ quote
  expect (String.singleton quote)
  return Text.ofChars cs

/-- Reads an external identifier, if one comes next: the public and the system part. Only a notation
may do without the system part. -/
def externalId? (needsSystem : Bool) : Scanner (Option (Option Text × Option Text)) := do
  if ← accept "SYSTEM" then
    someSpaces
    return some (none, some (Text.ofChars (← need literal?)))
  else if ← accept "PUBLIC" then
    someSpaces
    let p ← publicId
    if needsSystem then
      someSpaces
      return some (some p, some (Text.ofChars (← need literal?)))
    else
      let _ ← spaces
      return some (some p, (← literal?).map Text.ofChars)
  else return none

/-! ### Elements -/

/-- Reads a mark of repetition behind an expression. -/
def repetition (e : Expression Text) : Scanner (Expression Text) := do
  if ← accept "?" then return e.repeated 0 (some 1)
  else if ← accept "*" then return e.repeated 0 none
  else if ← accept "+" then return e.repeated 1 none
  else return e

/-- Reads the names of mixed content, behind the word for text. -/
def mixedNames : Nat → List Text → Scanner (List Text)
  | 0, _ => fail
  | fuel + 1, names => do
    let _ ← spaces
    if ← accept "|" then
      let _ ← spaces
      let name ← need name?
      mixedNames fuel (names ++ [Text.ofChars name])
    else
      if names.isEmpty then
        expect ")"
        let _ ← accept "*"
      else expect ")*"
      return names

mutual

/-- Reads a particle of a content model. -/
def particle : Nat → Scanner (Expression Text)
  | 0 => fail
  | fuel + 1 => do
    let _ ← spaces
    let e ← if ← accept "(" then group fuel none [] else
      pure (.one (Text.ofChars (← need name?)))
    repetition e

/-- Reads the rest of a group, behind the bracket or a separator. All separators of a group are the
same. -/
def group : Nat → Option String → List (Expression Text) → Scanner (Expression Text)
  | 0, _, _ => fail
  | fuel + 1, separator, done => do
    let e ← particle fuel
    let done := done ++ [e]
    let _ ← spaces
    if ← accept ")" then
      return if separator = some "|" then Expression.choice done else Expression.sequence done
    let next := if ← looksAt "|" then "|" else ","
    expect next
    if (separator.getD next) ≠ next then fail
    group fuel (some next) done

end

/-- Reads an element declaration, behind its word. -/
def elementDeclaration : Scanner MarkupDeclaration := do
  someSpaces
  let name ← need name?
  someSpaces
  let content ←
    if ← accept "EMPTY" then pure Content.empty
    else if ← accept "ANY" then pure Content.any
    else do
      expect "("
      let _ ← spaces
      if ← accept "#PCDATA" then
        return .element (Text.ofChars name)
          (.mixed (← mixedNames ((← rest).length + 1) []))
      let e ← group ((← rest).length + 1) none []
      pure (Content.elements (← repetition e))
  return .element (Text.ofChars name) content

/-! ### Attributes -/

/-- Reads the names of an enumeration, behind its bracket. A name that comes twice is complained
of. -/
def enumerated (reading : Scanner (Option (List Char))) : Nat → List Text → Scanner (List Text)
  | 0, _ => fail
  | fuel + 1, names => do
    let _ ← spaces
    let name := Text.ofChars (← need reading)
    if names.contains name then complain
    let names := if names.contains name then names else names ++ [name]
    let _ ← spaces
    if ← accept "|" then enumerated reading fuel names
    else
      expect ")"
      return names

/-- Reads the type of an attribute. -/
def attributeType : Scanner AttributeType := do
  if ← accept "CDATA" then return .characters
  else if ← accept "IDREFS" then return .idRefs
  else if ← accept "IDREF" then return .idRef
  else if ← accept "ID" then return .id
  else if ← accept "ENTITY" then return .entity
  else if ← accept "ENTITIES" then return .entities
  else if ← accept "NMTOKENS" then return .tokens
  else if ← accept "NMTOKEN" then return .token
  else if ← accept "NOTATION" then
    someSpaces
    expect "("
    return .notationName (← enumerated name? ((← rest).length + 1) [])
  else
    expect "("
    return .enumeration (← enumerated nameToken? ((← rest).length + 1) [])

/-- Reads the default of an attribute. -/
def attributeDefault (p : Prolog) (type : AttributeType) : Scanner AttributeDefault := do
  if ← accept "#REQUIRED" then return .required
  else if ← accept "#IMPLIED" then return .implied
  else if ← accept "#FIXED" then
    someSpaces
    return .fixed (← need (value? p type.isTokenized))
  else return .value (← need (value? p type.isTokenized))

/-- Reads the attributes that are declared for an element, up to the closing bracket. A default that
does not fit its type is complained of. -/
def declaredAttributes (p : Prolog) (element : Text) :
    Nat → List AttributeDeclaration → Scanner (List AttributeDeclaration)
  | 0, _ => fail
  | fuel + 1, done => do
    if ← looksAt ">" then return done
    let name ← need name?
    someSpaces
    let type ← attributeType
    someSpaces
    let default ← attributeDefault p type
    if !(← looksAt ">") then someSpaces
    match default.value? with
    | some v => if !type.fits v.chars then complain
    | none => pure ()
    declaredAttributes p element fuel (done ++ [⟨element, Text.ofChars name, type, default⟩])

/-- Reads the declaration of an element's attributes, behind its word. -/
def attributeDeclaration (p : Prolog) : Scanner MarkupDeclaration := do
  someSpaces
  let element ← need name?
  let _ ← spaces
  return .attributes (← declaredAttributes p (Text.ofChars element) ((← rest).length + 1) [])

/-! ### Entities and notations -/

/-- The replacement text that an entity's literal spells: characters are replaced, references to
entities stay, and percent signs may not stand. -/
def replacementText : List Char → Scanner (List Char)
  | [] => return []
  | '%' :: _ => fail
  | '&' :: rest =>
    match h : cut? [';'] rest with
    | none => fail
    | some (body, after) =>
      have : after.length < rest.length := length_lt_of_cut? (by simp) h
      if body.head? = some '#' then
        match innerCharacter? body with
        | some reading => do
          let c ← reading
          return c :: (← replacementText after)
        | none => fail
      else if isName body then do
        return '&' :: body ++ ';' :: (← replacementText after)
      else fail
  | c :: rest => do return c :: (← replacementText rest)
termination_by cs => cs.length

/-- Reads an entity declaration, behind its word, in a document at an address. -/
def entityDeclaration (base : Option (List Char)) : Scanner MarkupDeclaration := do
  someSpaces
  let isParameter ← accept "%"
  if isParameter then someSpaces
  let name ← need name?
  if name.contains ':' then complain
  someSpaces
  let name := Text.ofChars name
  let build := if isParameter then MarkupDeclaration.parameter name else .entity name
  match ← literal? with
  | some cs => return build (.internal (← replacementText cs))
  | none =>
    let (publicPart, systemPart) ← need (externalId? true)
    let system := (systemPart.getD []).chars
    if system.contains '#' then fail
    let address := (Address.resolve? base system).map Text.ofChars
    let apart ← spaces
    if !isParameter && apart then
      if ← accept "NDATA" then
        someSpaces
        let _ ← need name?
        return build .unparsed
    return build (.external publicPart address)

/-- Reads a notation declaration, behind its word. -/
def notationDeclaration : Scanner MarkupDeclaration := do
  someSpaces
  let name ← need name?
  if name.contains ':' then complain
  someSpaces
  let _ ← need (externalId? false)
  return .notationName (Text.ofChars name)

/-- Reads a declaration behind its first two characters. -/
def markupDeclaration (p : Prolog) (base : Option (List Char)) : Scanner MarkupDeclaration := do
  let d ←
    if ← accept "ELEMENT" then elementDeclaration
    else if ← accept "ATTLIST" then attributeDeclaration p
    else if ← accept "ENTITY" then entityDeclaration base
    else if ← accept "NOTATION" then notationDeclaration
    else fail
  let _ ← spaces
  expect ">"
  return d

end Scanner

end SchemaGate.Xml
