import SchemaGate.Log
import SchemaGate.Text.Classes

/-!
Schema location hints of a root element: pairs of a namespace and a location, of which the first for
a namespace counts, and one location for elements without a namespace.
-/

namespace SchemaGate.Xml

/-- The namespace of the attributes that carry the hints. -/
def instanceNamespace : String := "http://www.w3.org/2001/XMLSchema-instance"

/-- A table from namespaces, or none, to locations. -/
abbrev LocationTable := List (Option Text × Text)

/-- Adds a location unless its namespace has one. -/
def addLocation (table : LocationTable) (key : Option Text) (location : Text) : LocationTable :=
  if table.any fun entry => entry.1 = key then table else table ++ [(key, location)]

/-- The words of a list two by two; an odd last word is left over. -/
def pairUp : List Text → List (Text × Text) × Option Text
  | [] => ([], none)
  | [word] => ([], some word)
  | a :: b :: rest =>
    let (pairs, left) := pairUp rest
    ((a, b) :: pairs, left)

/-- The hints of an element, from its list of pairs and its location without a namespace. -/
def schemaLocations (pairList noNamespace : Option Text) : LocationTable × List Record :=
  let (pairs, left) := pairUp (pairList.getD []).words
  let records : List Record := match left with
    | none => []
    | some word => [⟨.warning, .markup,
        "Odd number of tokens in xsi:schemaLocation, ignoring '" ++ word ++ "'"⟩]
  let table := pairs.foldl (fun t p => addLocation t (some p.1) p.2) []
  let plain := (noNamespace.getD []).trim
  (if plain.isEmpty then table else addLocation table none plain, records)

/-- The location a table has for a namespace. -/
def locationOf? (table : LocationTable) (key : Option Text) : Option Text :=
  (table.find? fun entry => entry.1 = key).map (·.2)

end SchemaGate.Xml
