import SchemaGate.Text.Quoted

/-!
Values of settings files and of requests: the values of JSON, with the fields of an object in the
order in which they were written. A number that is not an integer keeps its spelling.
-/

namespace SchemaGate

inductive Value where
  | null
  | bool (b : Bool)
  | int (n : Int)
  | decimal (literal : Text)
  | text (t : Text)
  | list (items : List Value)
  | object (fields : List (Text × Value))
  deriving Inhabited

/-- The most digits a number may have to be read or written. -/
def Json.digitLimit : Nat := 4300

namespace Value

/-- The value of a field; the last one counts if a name is repeated. -/
def field? (name : Text) : Value → Option Value
  | .object fields => (fields.reverse.find? fun f => f.1 = name).map (·.2)
  | _ => none

mutual

/-- The value as messages show it. -/
def shown : Value → Text
  | .null => "None"
  | .bool true => "True"
  | .bool false => "False"
  | .int n => Text.ofInt n
  | .decimal literal => literal
  | .text t => t.quoted
  | .list items => "[" ++ Text.join ", " (shownItems items) ++ "]"
  | .object fields => "\x7b" ++ Text.join ", " (shownFields fields) ++ "\x7d"

/-- The items of a list as messages show them. -/
def shownItems : List Value → List Text
  | [] => []
  | v :: vs => shown v :: shownItems vs

/-- The fields of an object as messages show them. -/
def shownFields : List (Text × Value) → List Text
  | [] => []
  | (k, v) :: fs => (k.quoted ++ ": " ++ shown v) :: shownFields fs

end

/-- Does the value count as present? Null, false, zero and everything empty do not. -/
def isTruthy : Value → Bool
  | .null => false
  | .bool b => b
  | .int n => n != 0
  | .decimal literal => literal.any fun c => c.value ≠ 0x30 && (CodePoint.hexDigit? c).isSome
  | .text t => !t.isEmpty
  | .list items => !items.isEmpty
  | .object fields => !fields.isEmpty

/-- Is it a number with more digits than are written? -/
def isLong : Value → Bool
  | .int n => Json.digitLimit < (Text.ofNat n.natAbs).length
  | _ => false

mutual

/-- Is there a number with more digits than are written anywhere in the value? -/
def holdsLong : Value → Bool
  | .list items => anyHoldsLong items
  | .object fields => anyFieldHoldsLong fields
  | v => v.isLong

/-- Is there such a number in one of the items? -/
def anyHoldsLong : List Value → Bool
  | [] => false
  | v :: vs => holdsLong v || anyHoldsLong vs

/-- Is there such a number in one of the fields? -/
def anyFieldHoldsLong : List (Text × Value) → Bool
  | [] => false
  | (_, v) :: fs => holdsLong v || anyFieldHoldsLong fs

end

mutual

/-- Equality of values. A truth value equals the number 0 or 1, and the order of the fields of an
object does not count. -/
def same : Value → Value → Bool
  | .null, .null => true
  | .bool a, .bool b => a == b
  | .bool a, .int n => (if a then 1 else 0) == n
  | .int n, .bool a => (if a then 1 else 0) == n
  | .int n, .int m => n == m
  | .decimal a, .decimal b => a == b
  | .text a, .text b => a == b
  | .list a, .list b => sameItems a b
  | .object a, .object b => a.length == b.length && sameFields a b
  | _, _ => false

/-- Are the items equal one by one? -/
def sameItems : List Value → List Value → Bool
  | [], [] => true
  | a :: as, b :: bs => same a b && sameItems as bs
  | _, _ => false

/-- Does each field have an equal one of the same name? -/
def sameFields : List (Text × Value) → List (Text × Value) → Bool
  | [], _ => true
  | (k, v) :: fs, other =>
    (match other.find? fun f => f.1 = k with
      | some f => same v f.2
      | none => false) && sameFields fs other

end

end Value

end SchemaGate
