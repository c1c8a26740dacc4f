import SchemaGate.Xml.Asking
import SchemaGate.Xml.Declared

/-!
Subsets of a document type. Declarations come one after another; between them, and inside them where
the text is not the document's own, parameter entities stand for text. External ones are asked for.
A subset is read in any monad that can answer: the reading itself does nothing else.
-/

namespace SchemaGate.Xml

/-- A reader that may ask. -/
abbrev AskingScanner (m : Type → Type) (α : Type) := StateT Scan (ExceptT Nat m) α

/-- Where declarations are read. -/
structure Site where
  /-- Do they belong to the external subset? -/
  isExternal : Bool
  /-- May parameter entities stand inside declarations? -/
  isOutside : Bool
  /-- The address that references are resolved against. -/
  base : Option (List Char)

namespace Subset

/-- The attributes with one more; the first of a name counts. -/
def addAttribute (done : List AttributeDeclaration) (d : AttributeDeclaration) :
    List AttributeDeclaration :=
  if done.any fun e => e.element = d.element ∧ e.name = d.name then done else done ++ [d]

/-- The subset with one more declaration; the first of a name counts. -/
def add (s : Subset) : MarkupDeclaration → Subset
  | .element name content => { s with elements := Association.putMissing name content s.elements }
  | .attributes ds => { s with attributes := ds.foldl addAttribute s.attributes }
  | .entity name e => { s with entities := Association.putMissing name e s.entities }
  | .parameter name e => { s with parameters := Association.putMissing name e s.parameters }
  | .notationName name =>
    if s.notations.contains name then s else { s with notations := s.notations ++ [name] }

/-- Does the subset declare an element or a notation of that name already? -/
def repeats (s : Subset) : MarkupDeclaration → Bool
  | .element name _ => Association.has name s.elements
  | .notationName name => s.notations.contains name
  | _ => false

/-- A declaration of the external subset without the attributes that this subset declares. -/
def unseen (s : Subset) : MarkupDeclaration → MarkupDeclaration
  | .attributes ds => .attributes (ds.filter fun d => (s.attribute? d.element d.name).isNone)
  | d => d

end Subset

namespace Prolog

/-- The prolog with one more declaration. -/
def declare (p : Prolog) (isExternal : Bool) (d : MarkupDeclaration) : Prolog :=
  let extend := fun (t : Doctype) =>
    if isExternal then { t with external := t.external.map fun s => s.add (t.internal.unseen d) }
    else { t with internal := t.internal.add d }
  { p with doctype := p.doctype.map extend }

/-- Is an element or a notation declared a second time in its subset? -/
def repeats (p : Prolog) (isExternal : Bool) (d : MarkupDeclaration) : Bool :=
  (p.doctype.map fun t =>
    if isExternal then (t.external.map fun s => s.repeats d).getD false
    else t.internal.repeats d).getD false

end Prolog

namespace AskingScanner

variable {m : Type → Type} [Monad m] {α : Type}

/-- A reader that does not ask, among those that may. -/
def plain (reading : Scanner α) : AskingScanner m α := fun s => ExceptT.mk (pure (reading s))

/-- The characters of an external entity behind its declaration. -/
def entityCharacters (bytes : Bytes) : Scanner (List Char) := do
  let first := sniff bytes
  let body := bytes.drop first.mark
  Scanner.jump (.start (decode first.encoding body))
  let whole ← Scanner.rest
  match ← Scanner.textDeclaration first.isCertain with
  | none => Scanner.rest
  | some encoding =>
    let read := whole.length - (← Scanner.rest).length
    return (joinPairs (decode encoding body)).drop read

/-- Reads with the cursor elsewhere, and comes back. -/
def elsewhere (reading : AskingScanner m α) : AskingScanner m α := do
  let here ← get
  let a ← reading
  modify fun s => { s with cursor := here.cursor, outerLine := here.outerLine }
  return a

/-- The text of a parameter entity, and the address of its document; none if there is no such
text. -/
def parameterText (fetch : Fetch m) (base : Option (List Char)) (p : Prolog) (name : List Char) :
    AskingScanner m (Option (List Char × Option (List Char) × Bool)) := do
  match p.parameter? (Text.ofChars name) with
  | some (.internal cs) =>
    plain (Scanner.charge cs.length)
    return some (cs, base, false)
  | some (.external publicId (some address)) =>
    match ← monadLift (fetch ⟨publicId, address⟩) with
    | some bytes =>
      let cs ← elsewhere do
        modify fun s => { s with outerLine := none }
        plain (entityCharacters bytes)
      return some (cs, some address.chars, true)
    | none =>
      plain Scanner.warn
      return none
  | some _ =>
    plain Scanner.warn
    return none
  | none =>
    if p.isStandalone then plain Scanner.fail
    plain Scanner.complain
    return none

/-- Cuts a reference to a parameter entity behind its percent sign: its name and what follows it. -/
def cutParameter? (cs : List Char) : Option (List Char × List Char) :=
  match cut? [';'] cs with
  | some (name, after) => if isName name then some (name, after) else none
  | none => none

theorem length_lt_of_cutParameter? {cs name after : List Char}
    (h : cutParameter? cs = some (name, after)) : after.length < cs.length := by
  unfold cutParameter? at h
  split at h
  · next hc =>
    split at h
    · cases h; exact length_lt_of_cut? (by simp) hc
    · simp at h
  · simp at h

/-- A literal of a replaced entity inside another literal: its quotes end nothing. -/
def shielded (cs : List Char) : List Char :=
  cs.flatMap fun c =>
    if c = '"' then "&#34;".toList else if c = '\'' then "&#39;".toList else [c]

/-- The literal of an entity with the parameter entities in it replaced. `inner` replaces those in the
text of another one; without it there may be no more of them inside each other. -/
def literalAround (fetch : Fetch m) (base : Option (List Char)) (p : Prolog)
    (inner : Option (List Char → AskingScanner m (List Char))) :
    List Char → AskingScanner m (List Char)
  | [] => return []
  | '%' :: rest =>
    match h : cutParameter? rest with
    | none => plain Scanner.fail
    | some (name, after) =>
      have : after.length < rest.length := length_lt_of_cutParameter? h
      match inner with
      | none => plain Scanner.fail
      | some replace => do
        let text ← match ← parameterText fetch base p name with
          | some (cs, _) => replace cs
          | none => pure []
        return shielded text ++ (← literalAround fetch base p inner after)
  | c :: rest => return c :: (← literalAround fetch base p inner rest)
termination_by cs => cs.length

/-- The literal of an entity, with at most so many parameter entities inside each other. -/
def replacedInLiteral (fetch : Fetch m) (base : Option (List Char)) (p : Prolog) :
    Nat → List Char → AskingScanner m (List Char)
  | 0 => literalAround fetch base p none
  | depth + 1 => literalAround fetch base p (some (replacedInLiteral fetch base p depth))

/-- Does a literal behind these characters, the latest first, spell the text of an entity? -/
def beforeEntityText (isEntity : Bool) (before : List Char) : Bool :=
  let last := (before.dropWhile isSpace).takeWhile fun c => !isSpace c
  isEntity && last ≠ "METSYS".toList && last ≠ "CILBUP".toList
    && last.head? ≠ some '"' && last.head? ≠ some '\''

/-- A declaration with the parameter entities in it replaced. `before` is what stands in front, the
latest character first. `inLiteral` replaces those in the literal of an entity, and `inner` those in the
text of another one; without it there may be no more of them inside each other. -/
def replacedAround (fetch : Fetch m) (base : Option (List Char)) (p : Prolog) (isEntity : Bool)
    (inLiteral : List Char → AskingScanner m (List Char))
    (inner : Option (List Char → List Char → AskingScanner m (List Char))) (before : List Char) :
    List Char → AskingScanner m (List Char)
  | [] => return before
  | c :: rest =>
    if c = '%' then
      match h : cutParameter? rest with
      | none => replacedAround fetch base p isEntity inLiteral inner (c :: before) rest
      | some (name, after) =>
        have : after.length < rest.length := length_lt_of_cutParameter? h
        match inner with
        | none => plain Scanner.fail
        | some replace => do
          let before ← match ← parameterText fetch base p name with
            | some (cs, _) => replace (' ' :: before) cs
            | none => pure before
          replacedAround fetch base p isEntity inLiteral inner (' ' :: before) after
    else if c = '"' || c = '\'' then
      match h : cut? [c] rest with
      | none => replacedAround fetch base p isEntity inLiteral inner (c :: before) rest
      | some (literal, after) =>
        have : after.length < rest.length := length_lt_of_cut? (by simp) h
        do
          let literal ← if beforeEntityText isEntity before then inLiteral literal else pure literal
          replacedAround fetch base p isEntity inLiteral inner (c :: literal.reverse ++ c :: before) after
    else replacedAround fetch base p isEntity inLiteral inner (c :: before) rest
termination_by cs => cs.length

/-- A declaration, with at most so many parameter entities inside each other. -/
def replaced (fetch : Fetch m) (base : Option (List Char)) (p : Prolog) (isEntity : Bool) :
    Nat → List Char → List Char → AskingScanner m (List Char)
  | 0 => replacedAround fetch base p isEntity (replacedInLiteral fetch base p 0) none
  | depth + 1 =>
    replacedAround fetch base p isEntity (replacedInLiteral fetch base p (depth + 1))
      (some (replaced fetch base p isEntity depth))

/-- The characters of a declaration up to its closing bracket, which does not stand in quotes. -/
def declarationLength : Option Char → List Char → Nat
  | _, [] => 0
  | some quote, c :: rest => 1 + declarationLength (if c = quote then none else some quote) rest
  | none, c :: rest =>
    if c = '>' then 1
    else 1 + declarationLength (if c = '"' || c = '\'' then some c else none) rest

/-- Reads one declaration behind its first two characters. -/
def oneDeclaration (fetch : Fetch m) (site : Site) (p : Prolog) : AskingScanner m Prolog := do
  let d ←
    if site.isOutside then do
      let cs := (← get).cursor.rest
      let length := declarationLength none cs
      let text ← replaced fetch site.base p ("ENTITY".toList.isPrefixOf cs)
        Scanner.nestingLimit [] (cs.take length)
      let after := (← get).cursor.skip length
      modify fun s => { s with cursor := ⟨text.reverse, s.cursor.line⟩ }
      let d ← plain (Scanner.markupDeclaration p site.base)
      plain (Scanner.jump after)
      pure d
    else plain (Scanner.markupDeclaration p site.base)
  if p.repeats site.isExternal d then plain Scanner.complain
  return p.declare site.isExternal d

/-- Skips an ignored section together with the sections inside it. -/
def skipIgnored : Nat → Nat → Scanner Unit
  | 0, _ => Scanner.fail
  | fuel + 1, depth => do
    let _ ← Scanner.span fun cs => "]]>".toList.isPrefixOf cs || "<![".toList.isPrefixOf cs
    if ← Scanner.accept "<![" then skipIgnored fuel (depth + 1)
    else
      Scanner.expect "]]>"
      if depth = 0 then return () else skipIgnored fuel (depth - 1)

/-- The word that opens a conditional section; it may be the text of a parameter entity. -/
def sectionWord (fetch : Fetch m) (site : Site) (p : Prolog) :
    AskingScanner m (List Char) := do
  let _ ← plain Scanner.spaces
  let word ← if ← plain (Scanner.accept "%") then do
      let name ← plain Scanner.entityName
      let text ← parameterText fetch site.base p name
      pure ((text.map Prod.fst).getD [])
    else plain (Scanner.spanClass Char.isAlpha)
  let _ ← plain Scanner.spaces
  plain (Scanner.expect "[")
  return word.filter fun c => !isSpace c

/-- A reader of declarations: of where they stand, the entities that are being read, the greatest number
of declarations, the number of included sections that are open, and the prolog so far. -/
abbrev DeclarationReader (m : Type → Type) :=
  Site → List (List Char) → Nat → Nat → Prolog → AskingScanner m Prolog

/-- Reads declarations up to the end of the text, or to the bracket that ends the internal subset. The
entities that are being read may not turn up again. `inner` reads the text of another one; without it
there may be no more of them inside each other. -/
def declarationsAround (fetch : Fetch m) (inner : Option (DeclarationReader m)) (site : Site)
    (entities : List (List Char)) : Nat → Nat → Prolog → AskingScanner m Prolog
  | 0, _, _ => plain Scanner.fail
  | fuel + 1, sections, p => do
    let _ ← plain Scanner.spaces
    if (← get).cursor.rest.isEmpty then
      if sections ≠ 0 then plain Scanner.fail
      return p
    if (← plain (Scanner.looksAt "]")) && !site.isOutside then return p
    if ← plain (Scanner.accept "<!--") then
      let _ ← plain Scanner.comment
      declarationsAround fetch inner site entities fuel sections p
    else if ← plain (Scanner.accept "<?") then
      let _ ← plain Scanner.instruction
      declarationsAround fetch inner site entities fuel sections p
    else if site.isOutside && (← plain (Scanner.accept "<![")) then
      let word ← sectionWord fetch site p
      if word = "INCLUDE".toList then
        declarationsAround fetch inner site entities fuel (sections + 1) p
      else
        if word ≠ "IGNORE".toList then plain Scanner.fail
        plain (skipIgnored ((← get).cursor.rest.length + 1) 0)
        declarationsAround fetch inner site entities fuel sections p
    else if sections ≠ 0 && (← plain (Scanner.accept "]]>")) then
      declarationsAround fetch inner site entities fuel (sections - 1) p
    else if ← plain (Scanner.accept "<!") then
      let p ← oneDeclaration fetch site p
      declarationsAround fetch inner site entities fuel sections p
    else
      plain (Scanner.expect "%")
      let name ← plain Scanner.entityName
      let p := { p with mayMissDeclarations := true }
      if entities.contains name then plain Scanner.fail
      match ← parameterText fetch site.base p name with
      | none => declarationsAround fetch inner site entities fuel sections p
      | some (cs, base, isExternal) =>
        match inner with
        | none => plain Scanner.fail
        | some read =>
          let p ← elsewhere do
            modify fun s => { s with
              cursor := .start cs
              outerLine := if isExternal then none else some s.cursor.line }
            read ⟨site.isExternal, true, base⟩ (name :: entities) (cs.length + 1) 0 p
          declarationsAround fetch inner site entities fuel sections p

/-- Reads declarations, with at most so many parameter entities inside each other. -/
def declarations (fetch : Fetch m) : Nat → DeclarationReader m
  | 0 => declarationsAround fetch none
  | depth + 1 => declarationsAround fetch (some (declarations fetch depth))

end AskingScanner

end SchemaGate.Xml
