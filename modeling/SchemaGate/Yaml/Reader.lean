import SchemaGate.Yaml.Node

/-!
Reading YAML into values. Only the tags of the format itself are known. The pairs of mappings under a
merge key come before a mapping's own pairs, which override them. A key that is not a text is known
by its spelling in JSON; lists and objects are no keys.
-/

namespace SchemaGate.Yaml

/-- Is the year a leap year? -/
def isLeap (year : Nat) : Bool := year % 4 = 0 && (year % 100 ≠ 0 || year % 400 = 0)

/-- The number of days of a month. -/
def daysIn (year month : Nat) : Nat :=
  if month = 2 then (if isLeap year then 29 else 28)
  else if month ∈ [4, 6, 9, 11] then 30
  else 31

/-- Why the calendar does not have a moment, if it does not. -/
def momentFault? (m : Moment) : Option String :=
  let (year, month, day) := m.date
  if year = 0 then some "year 0 is out of range"
  else if month = 0 || 12 < month then some "month must be in 1..12"
  else if day = 0 || daysIn year month < day then some "day is out of range for month"
  else match m.time with
    | some (hour, minute, second) =>
      if 23 < hour then some "hour must be in 0..23"
      else if 59 < minute then some "minute must be in 0..59"
      else if 59 < second then some "second must be in 0..59"
      else none
    | none => none

/-- The value of a scalar. -/
def scalarValue (tag text : Text) : Except Fault Value :=
  if tag = standardTag "str" then .ok (.text text)
  else if tag = Kind.null.tag then .ok .null
  else if tag = Kind.bool.tag then
    let small := text.lower
    if isOneOf trueWords small then .ok (.bool true)
    else if isOneOf boolWords small then .ok (.bool false)
    else .error .malformed
  else if tag = Kind.int.tag then
    if isInt text then
      match intValue text with
      | .ok n => .ok (.int n)
      | .error (.longNumber digits) => .error (.longNumber digits)
      | .error _ => .error .malformed
    else .error .malformed
  else if tag = Kind.float.tag then .ok (.decimal text)
  else if tag = Kind.timestamp.tag then
    match readMoment? text with
    | some m =>
      match momentFault? m with
      | some message => .error (.noSuchDate message)
      | none => .ok (.decimal text)
    | none => .error .malformed
  else if tag = standardTag "binary" then .ok (.decimal text)
  else .error .malformed

/-- The spelling of a value as a key. -/
def keyText : Value → Except Fault Text
  | .text t => .ok t
  | .null => .ok "null"
  | .bool true => .ok "true"
  | .bool false => .ok "false"
  | .int n => .ok (Text.ofInt n)
  | .decimal literal => .ok literal
  | _ => .error .malformed

/-- Is the node a key under which mappings are merged? -/
def isMergeKey : Node → Bool
  | .scalar tag _ => tag = Kind.merge.tag
  | _ => false

mutual

/-- The value of a node. -/
def valueOf : Node → Except Fault Value
  | .scalar tag text => scalarValue tag text
  | .sequence tag items => do
    if tag = standardTag "seq" then return .list (← valuesOf items)
    else if tag = standardTag "omap" || tag = standardTag "pairs" then
      return .list (← pairLists items)
    else throw .malformed
  | .mapping tag pairs => do
    let (merged, own) ← fieldsOf pairs
    if tag = standardTag "map" then return .object (Association.update [] (merged ++ own))
    else if tag = standardTag "set" then return .null
    else throw .malformed

/-- The values of nodes. -/
def valuesOf : List Node → Except Fault (List Value)
  | [] => .ok []
  | n :: ns => do
    let v ← valueOf n
    return v :: (← valuesOf ns)

/-- Mappings of one pair each, as lists of a key and a value. -/
def pairLists : List Node → Except Fault (List Value)
  | [] => .ok []
  | .mapping _ [(k, v)] :: ns => do
    let k ← valueOf k
    let v ← valueOf v
    return .list [k, v] :: (← pairLists ns)
  | _ :: _ => .error .malformed

/-- The fields of a mapping: those that are merged in, and its own. -/
def fieldsOf : List (Node × Node) →
    Except Fault (List (Text × Value) × List (Text × Value))
  | [] => .ok ([], [])
  | (k, v) :: rest => do
    if isMergeKey k then
      let found ← mergedFields v
      let (merged, own) ← fieldsOf rest
      return (found ++ merged, own)
    else
      let key ← match k with
        | .scalar tag text => if tag = Kind.value.tag then pure text else
            keyText (← scalarValue tag text)
        | _ => throw .malformed
      let value ← valueOf v
      let (merged, own) ← fieldsOf rest
      return (merged, (key, value) :: own)

/-- The fields of a mapping, or of a sequence of mappings of which earlier ones count more. -/
def mergedFields : Node → Except Fault (List (Text × Value))
  | .mapping _ pairs => do
    let (merged, own) ← fieldsOf pairs
    return merged ++ own
  | .sequence _ items => mergedItems items
  | .scalar .. => .error .malformed

/-- The fields of mappings, the last mapping first. -/
def mergedItems : List Node → Except Fault (List (Text × Value))
  | [] => .ok []
  | .mapping _ pairs :: rest => do
    let (merged, own) ← fieldsOf pairs
    return (← mergedItems rest) ++ merged ++ own
  | _ :: _ => .error .malformed

end

/-- The value of a text's only document; an empty text is null. -/
def read (t : Text) : Except Fault Value := do
  match ← rootOf t with
  | some n => valueOf n
  | none => return .null

end SchemaGate.Yaml
