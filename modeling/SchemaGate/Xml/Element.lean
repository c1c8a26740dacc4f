import SchemaGate.Xml.Markup
import SchemaGate.Xml.Tag

/-!
The content of elements. Reading takes one token at a time and applies it to the elements that are
open; the innermost one comes first and holds its children so far, the latest first. The text of an
entity is read in its place, and has to open and close its elements itself.
-/

namespace SchemaGate.Xml

/-- An element whose end tag has not been read. -/
structure OpenElement where
  written : WrittenName
  head : Head
  scope : Scope
  children : List Node

/-- What has been read of an element: those open in it, and itself once it is closed. -/
structure Growth where
  opened : List OpenElement
  closed : Option Node

/-- One more child, the latest first; text behind text becomes one node with it. -/
def addChild (child : Node) (children : List Node) : List Node :=
  match child, children with
  | .text t, .text before :: rest => .text (before ++ t) :: rest
  | child, children => child :: children

namespace Growth

/-- Adds a node where the reading is. -/
def add (g : Growth) (n : Node) : Growth :=
  match g.opened with
  | [] => { g with closed := some n }
  | e :: outer => { g with opened := { e with children := addChild n e.children } :: outer }

/-- The namespaces where the reading is. -/
def scope (g : Growth) : Scope := (g.opened.head?.map OpenElement.scope).getD []

end Growth

/-- What a step of the reading has come to. -/
inductive Step where
  | went (g : Growth)
  | reached (name replacement : List Char)
  | ended

namespace Scanner

/-- How many elements may be open before one more is opened. -/
def depthLimit : Nat := 256

/-- Reads an element's start tag from behind its first bracket. -/
def openElement (p : Prolog) (g : Growth) : Scanner Growth := do
  if depthLimit < g.opened.length then fail
  let (written, head, scope) ← startTag p g.scope
  if ← accept "/>" then return g.add (.element head [])
  expect ">"
  return { g with opened := ⟨written, head, scope, []⟩ :: g.opened }

/-- Reads an end tag from behind its first two characters. -/
def closeElement (g : Growth) : Scanner Growth := do
  match g.opened with
  | [] => fail
  | e :: outer =>
    let name ← name?
    let _ ← spaces
    expect ">"
    if (name.map Text.ofChars) ≠ some e.written.text then fail
    return Growth.add ⟨outer, g.closed⟩ (.element e.head e.children.reverse)

/-- Reads a run of text. The end mark of character sections may not stand in it. -/
def textRun : Scanner Node := do
  let cs ← span fun
    | '<' :: _ | '&' :: _ | ']' :: ']' :: '>' :: _ => true
    | _ => false
  if cs.isEmpty then fail
  return .text (Text.ofChars cs)

/-- Reads one token of content. Elements up to the number `floor` stay open. -/
def contentStep (p : Prolog) (floor : Nat) (g : Growth) : Scanner Step := do
  if (← rest).isEmpty || g.opened.isEmpty then return .ended
  if ← accept "</" then
    if g.opened.length ≤ floor then fail
    return .went (← closeElement g)
  else if ← accept "<![CDATA[" then
    return .went (g.add (.text (Text.ofChars (← upTo "]]>"))))
  else if ← accept "<!--" then return .went (g.add (.comment (← comment)))
  else if ← accept "<?" then
    let (target, content) ← instruction
    return .went (g.add (.instruction target content))
  else if ← accept "<" then return .went (← openElement p g)
  else if ← accept "&#" then return .went (g.add (.text [.char (← characterReference)]))
  else if ← accept "&" then
    let name ← entityName
    match predefined? name with
    | some c => return .went (g.add (.text [.char c]))
    | none =>
      match ← replacement? p name with
      | some cs => return .reached name cs
      | none => return .went g
  else return .went (g.add (← textRun))

/-- A reader of content: of the entities that are being read, the number of elements that stay open,
the greatest number of tokens, and what has grown so far. -/
abbrev ContentReader := List (List Char) → Nat → Nat → Growth → Scanner Growth

/-- Reads content until the text ends or the outermost element is closed. The entities that are being
read may not turn up again. `inner` reads the text of another one; without it there may be no more of
them inside each other. -/
def contentAround (p : Prolog) (inner : Option ContentReader) (entities : List (List Char)) (floor : Nat) :
    Nat → Growth → Scanner Growth
  | 0, _ => fail
  | fuel + 1, g => do
    match ← contentStep p floor g with
    | .ended => return g
    | .went g => contentAround p inner entities floor fuel g
    | .reached name replacement =>
      match inner with
      | none => fail
      | some read =>
        if entities.contains name then fail
        let here ← get
        set { here with
          cursor := ⟨replacement, 1⟩
          outerLine := some here.cursor.line : Scan }
        let g' ← read (name :: entities) g.opened.length (replacement.length + 1) g
        if g'.opened.length ≠ g.opened.length then fail
        modify fun s => { s with cursor := here.cursor, outerLine := here.outerLine }
        contentAround p inner entities floor fuel g'

/-- Reads content with at most so many entities inside each other. -/
def content (p : Prolog) : Nat → ContentReader
  | 0 => contentAround p none
  | depth + 1 => contentAround p (some (content p depth))

/-- Reads the element that starts here. -/
def rootElement (p : Prolog) : Scanner Node := do
  expect "<"
  let g ← openElement p ⟨[], none⟩
  let g ← content p nestingLimit [] 0 ((← rest).length + 1) g
  match g.closed with
  | some n => return n
  | none => fail

end Scanner

end SchemaGate.Xml
