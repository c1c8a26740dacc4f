import SchemaGate.Table.Basic

/-!
Tables in memory. A table is made at a place, and whoever knows the place can change what is there; so
two that know one place share a table, and a copy is another place. A resolver keeps at most one table
of its own.
-/

namespace SchemaGate

/-- The tables of a program by their places. -/
structure TableMemory where
  contents : List Mappings
  /-- The place of the table that the resolver keeps. -/
  kept : Option Nat
  kept_lt : ∀ place ∈ kept, place < contents.length

namespace TableMemory

/-- No table was made. -/
def empty : TableMemory := ⟨[], none, nofun⟩

/-- The resolver keeps the only table. -/
def holding (table : Mappings) : TableMemory :=
  ⟨[table], some 0, fun _ h => Option.some.inj h ▸ Nat.zero_lt_one⟩

/-- The table at a place; nothing is in a table that was not made. -/
def content (m : TableMemory) (place : Nat) : Mappings := (m.contents[place]?).getD []

/-- The table that the resolver keeps. -/
def loaded (m : TableMemory) : Option Mappings := m.kept.map m.content

/-- The place where the next table is made. -/
def next (m : TableMemory) : Nat := m.contents.length

/-- Makes a table. -/
def add (m : TableMemory) (table : Mappings) : TableMemory where
  contents := m.contents ++ [table]
  kept := m.kept
  kept_lt place h := Nat.lt_of_lt_of_le (m.kept_lt place h) (by simp)

/-- Changes the table at a place. -/
def change (m : TableMemory) (place : Nat) (f : Mappings → Mappings) : TableMemory where
  contents := m.contents.modify place f
  kept := m.kept
  kept_lt place h := Nat.lt_of_lt_of_le (m.kept_lt place h) (by simp)

/-- Gives the resolver a table to keep. -/
def keep (m : TableMemory) (place : Nat) : TableMemory :=
  if h : place < m.next then
    { m with kept := some place, kept_lt := fun _ h' => Option.some.inj h' ▸ h }
  else m

end TableMemory

end SchemaGate
