import SchemaGate.Schema.Basic
import SchemaGate.Xml.SchemaLocation

/-!
Validation of documents by a schema. The walk over an element keeps a state of what may still stand in
it. A child that may not stand there ends the look at its parent, but not at the elements around it;
flaws of attributes and of text never end anything. The outcome is the line of each flaw, in the order
in which they are found.
-/

namespace SchemaGate.Schema

open Xml

/-- How an element is to be taken. -/
inductive Expectation where
  | use (u : ElementUse TypeUse)
  /-- By its declaration, which has to exist. -/
  | declared
  /-- By its declaration if there is one. -/
  | declaredOrAny
  | ignored

/-- What may still stand in an element. -/
inductive State where
  | empty
  /-- Nothing at all, since the element says that it is nil. -/
  | nil
  /-- Text that has been read so far, to be a value of a type. -/
  | value (type : SimpleType) (given : Option Given) (sofar : List Char)
  | ordered (isMixed : Bool) (model : Expression (Particle TypeUse))
  | unordered (isMixed mayStop : Bool) (members : List (Bool × Particle TypeUse))
  | anything

namespace State

/-- The state in which the content of a type starts. -/
def ofContent (given : Option Given) : Content TypeUse → State
  | .empty => .empty
  | .simple t => .value t given []
  | .ordered isMixed model => .ordered isMixed model
  | .unordered isMixed isOptional members =>
    .unordered isMixed (isOptional || members.all fun m => !m.1) members

/-- How an element is taken that fits a particle. -/
def expectation : Particle TypeUse → Expectation
  | .element u => .use u
  | .reference _ => .declared
  | .wildcard w =>
    match w.strictness with
    | .skip => .ignored
    | .lax => .declaredOrAny
    | .strict => .declared

/-- The state behind a child, and how the child is taken; `none` if it may not stand here. -/
def child? (c : Components) (key : Key) : State → Option (Expectation × State)
  | .ordered isMixed model =>
    let fits := Particle.isFitBy c.substitutions key
    (model.firsts.find? fits).map fun p => (expectation p, .ordered isMixed (model.after fits))
  | .unordered isMixed _ members =>
    let fits := fun (m : Bool × Particle TypeUse) => m.2.isFitBy c.substitutions key
    (members.find? fits).map fun m =>
      let rest := members.filter fun m => !fits m
      (expectation m.2, .unordered isMixed (rest.all fun m => !m.1) rest)
  | .anything => some (.declaredOrAny, .anything)
  | _ => none

/-- Is it the parent, and not the child, that a misplaced child is a flaw of? -/
def blamesParent : State → Bool
  | .ordered .. | .unordered .. => false
  | _ => true

/-- The state behind a piece of text, and whether the text is a flaw. -/
def text (t : Text) (s : State) : State × Bool :=
  match s with
  | .empty | .nil => (s, !t.isEmpty)
  | .value type given sofar => (.value type given (sofar ++ t.chars), false)
  | .ordered isMixed _ | .unordered isMixed _ _ => (s, !isMixed && !t.chars.all isSpace)
  | .anything => (s, false)

/-- How many flaws a value has by its type and by what is given for it. -/
def valueFlaws (type : SimpleType) (given : Option Given) (cs : List Char) : Nat :=
  let n := type.flaws cs
  match given with
  | some (.fixed v) =>
    if n = 0 && !type.isSameValue (type.space.treat cs) (type.space.treat v.chars) then 1 else n
  | _ => n

/-- How many flaws it is that nothing more comes. An element without any text takes the value given
for it. -/
def endFlaws : State → Nat
  | .value type given sofar =>
    if given.isSome && sofar.isEmpty then 0 else valueFlaws type given sofar
  | .ordered _ model => if model.isNullable then 0 else 1
  | .unordered _ mayStop _ => if mayStop then 0 else 1
  | _ => 0

end State

/-! ### Attributes -/

/-- Is it an attribute that steers the validation itself? -/
def isSteering (n : Name) : Bool :=
  n.space = some (instanceNamespace : Text)
    && ["type", "nil", "schemaLocation", "noNamespaceSchemaLocation"].any fun w =>
      n.part = (w : Text)

/-- The flaws of an attribute that only a wildcard may admit. -/
def otherAttributeFlaws (c : Components) (w : Option Wildcard) (a : Attribute) : Nat :=
  match w with
  | none => 1
  | some w =>
    if !w.admission.admits a.name.space then 1
    else
      match w.strictness, Association.get? (Key.ofName a.name) c.attributes with
      | .skip, _ => 0
      | _, some u => State.valueFlaws u.type u.given a.value.chars
      | .lax, none => 0
      | .strict, none => 1

/-- The flaws of the attributes of an element by its type. -/
def attributeFlaws (c : Components) (t : ComplexType TypeUse) (h : Head) : Nat :=
  let missing := t.attributes.filter fun u =>
    u.isRequired && (h.attribute? u.key.space u.key.part).isNone
  let present := (h.attributes.filter fun a => !isSteering a.name).map fun a =>
    match t.attributes.find? fun u => u.key = Key.ofName a.name with
    | some u => State.valueFlaws u.type u.given a.value.chars
    | none => otherAttributeFlaws c t.otherAttributes a
  present.foldl (· + ·) missing.length

/-! ### Elements -/

/-- What the start tag of an element says about it: flaws, and the state its content starts in unless
the content is not looked at. -/
structure Opening where
  flaws : Nat
  state : Option State

/-- The opening of an element whose type allows everything. -/
def openAny (c : Components) (h : Head) : Opening :=
  let lax : ComplexType TypeUse := ⟨.empty, [], some ⟨.all, .lax⟩, false, []⟩
  ⟨attributeFlaws c lax h, some .anything⟩

/-- The opening of an element by its type. -/
def openType (c : Components) (given : Option Given) (isNil : Bool) (type : TypeUse) (h : Head) :
    Opening :=
  let state := fun (s : State) => if isNil then State.nil else s
  match c.definition? type with
  | none => openAny c h
  | some (.inl t) =>
    ⟨(h.attributes.filter fun a => !isSteering a.name).length, some (state (.value t given []))⟩
  | some (.inr t) =>
    if t.isAbstract then ⟨1, none⟩
    else ⟨attributeFlaws c t h, some (state (.ofContent given t.content))⟩

/-- An attribute that steers the validation. -/
def steering? (h : Head) (name : String) : Option Text :=
  h.attribute? (some (instanceNamespace : Text)) name

/-- The type that a name in a document refers to. -/
def typeNamed? (c : Components) (bindings : List Declaration) (name : Text) :
    Option (Key × TypeUse) := do
  let (front, part) ← match (Space.collapse.treat name.chars).splitOn ':' with
    | [n] => some (none, Text.ofChars n)
    | [p, n] => some (some (Text.ofChars p), Text.ofChars n)
    | _ => none
  let space := (bindings.find? fun d => d.declares = front).map Declaration.address
  let key : Key := ⟨space.filter fun s => !s.isEmpty, part⟩
  if key = ⟨some schemaNamespace, "anyType"⟩ then return (key, .anything)
  else if key.space = some schemaNamespace then
    return (key, .simple (.datatype (← Datatype.find? part)))
  else return (key, ← (Association.get? key c.types).map fun _ => .named key)

/-- May a type with a name stand where a complex type with a name is declared? -/
def mayReplace (c : Components) (key : Key) (type declared : TypeUse) : Bool :=
  match declared with
  | .named base => key = base || match c.definition? type with
    | some (.inr t) => t.bases.contains base
    | _ => false
  | _ => true

/-- The opening of an element by its declaration. The element itself may name another type, or say
that it is nil. -/
def openUse (c : Components) (bindings : List Declaration) (u : ElementUse TypeUse) (h : Head) :
    Opening :=
  if u.isAbstract then ⟨1, none⟩
  else
    let word := (steering? h "nil").map fun t => String.ofList (Space.collapse.treat t.chars)
    let truth := word.bind fun w =>
      if w = "true" || w = "1" then some true
      else if w = "false" || w = "0" then some false
      else none
    let nilFlaws := if word.isSome && (truth.isNone || !u.isNillable) then 1 else 0
    let (type, typeFlaws) := match steering? h "type" with
      | none => (u.type, 0)
      | some name =>
        match typeNamed? c bindings name with
        | none => (u.type, 1)
        | some (key, type) => (type, if mayReplace c key type u.type then 0 else 1)
    let o := openType c u.given (nilFlaws = 0 && truth = some true) type h
    { o with flaws := o.flaws + nilFlaws + typeFlaws }

/-- The opening of an element by what is expected of it. -/
def opening (c : Components) (bindings : List Declaration) (e : Expectation) (h : Head) : Opening :=
  match e, c.element? (Key.ofName h.name) with
  | .ignored, _ => ⟨0, none⟩
  | .use u, _ => openUse c bindings u h
  | .declared, some u | .declaredOrAny, some u => openUse c bindings u h
  | .declared, none => ⟨1, none⟩
  | .declaredOrAny, none => openAny c h

mutual

/-- The lines of the flaws of an element and of all in it. -/
def elementFlaws (c : Components) (bindings : List Declaration) (e : Expectation) :
    Node → List Nat
  | .element h children =>
    let bindings := h.declarations ++ bindings
    let o := opening c bindings e h
    List.replicate o.flaws h.line ++ match o.state with
      | some s => childrenFlaws c bindings h.line s children
      | none => []
  | _ => []

/-- The lines of the flaws of what is left in an element. -/
def childrenFlaws (c : Components) (bindings : List Declaration) (line : Nat) (s : State) :
    List Node → List Nat
  | [] => List.replicate s.endFlaws line
  | .text t :: rest =>
    let (s, isFlaw) := s.text t
    (if isFlaw then [line] else []) ++ childrenFlaws c bindings line s rest
  | .element h children :: rest =>
    match s.child? c (Key.ofName h.name) with
    | some (e, s) =>
      elementFlaws c bindings e (.element h children) ++ childrenFlaws c bindings line s rest
    | none => [if s.blamesParent then line else h.line]
  | _ :: rest => childrenFlaws c bindings line s rest

end

/-- The lines of the flaws of a document whose outermost element has to be declared. -/
def flaws (c : Components) (root : Node) : List Nat := elementFlaws c [] .declared root

end SchemaGate.Schema
