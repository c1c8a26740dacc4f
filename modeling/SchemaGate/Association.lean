/-!
Tables as lists of pairs, in the order in which their keys first appeared. Writing a key that is
present changes its value and leaves it in its place.
-/

namespace SchemaGate.Association

variable {κ ν : Type} [DecidableEq κ]

/-- The value of a key. -/
def get? (key : κ) (table : List (κ × ν)) : Option ν :=
  (table.find? fun entry => entry.1 = key).map (·.2)

/-- Is the key present? -/
def has (key : κ) (table : List (κ × ν)) : Bool := table.any fun entry => entry.1 = key

/-- The table with a value for a key: in its place if the key is present, else at the end. -/
def put (key : κ) (value : ν) : List (κ × ν) → List (κ × ν)
  | [] => [(key, value)]
  | (k, v) :: rest => if k = key then (k, value) :: rest else (k, v) :: put key value rest

/-- The table with a value for a key that it does not have yet. -/
def putMissing (key : κ) (value : ν) (table : List (κ × ν)) : List (κ × ν) :=
  if has key table then table else table ++ [(key, value)]

/-- The table completed with the entries of another one. -/
def complete (table other : List (κ × ν)) : List (κ × ν) :=
  other.foldl (fun t entry => putMissing entry.1 entry.2 t) table

/-- The table updated with the entries of another one. -/
def update (table other : List (κ × ν)) : List (κ × ν) :=
  other.foldl (fun t entry => put entry.1 entry.2 t) table

end SchemaGate.Association
