import SchemaGate.Schema.Reader.Element

/-!
Reading schemas. Every definition of a library is read into a component. Any fault, and any content
model in which the next element does not tell its place, makes the whole no schema.
-/

namespace SchemaGate.Schema

open Xml

namespace Library

/-- Enough steps for every library that is not built in a circle. -/
def stepLimit (l : Library) : Nat :=
  l.foldl (fun n d => n + 4 * (Node.elementCountOf d.item.children + 1)) 10

/-- Reads every element, type and attribute, and looks at the groups. -/
def components? (l : Library) : Option Components := do
  let steps := l.stepLimit
  let ofWord := fun (word : String) => l.filter fun d => d.item.has word
  let elements ← (ofWord "element").mapM fun d => do
    if !d.item.allows ["name", "type", "default", "fixed", "nillable", "abstract", "final", "block",
      "substitutionGroup"] then none
    return (d.key, ← l.declaredElement? steps d.key.space d.item)
  let simples ← (ofWord "simpleType").mapM fun d => do
    return (d.key, TypeUse.simple (← l.simple? steps d.item))
  let complexes ← (ofWord "complexType").mapM fun d => do
    return (d.key, TypeUse.anonymous (← l.complex? steps d.item))
  let attributes ← (ofWord "attribute").mapM fun d => do
    if !d.item.allows ["name", "type", "default", "fixed"] then none
    return (d.key, ← l.declaredAttribute? steps d.key.space d.item)
  let _ ← (ofWord "attributeGroup").mapM fun d => l.attributeGroup? steps d.item
  let groups ← (ofWord "group").mapM fun d => groupParts? d.item
  let _ ← groups.mapM fun p => l.content? steps false [p]
  if !l.all fun d => (d.item.attribute? "substitutionGroup").isNone
    || l.substitutions.any fun s => s.1 = d.key && (l.find? ["element"] s.2).isSome then none
  return ⟨elements, simples ++ complexes, attributes, l.substitutions⟩

end Library

end SchemaGate.Schema
