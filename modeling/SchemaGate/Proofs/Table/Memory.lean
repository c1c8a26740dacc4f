import SchemaGate.Table.Memory

/-! Tables and their places.

    To make a table changes none that was made before, and to change the table at a place changes none at
    another place. So a table that the resolver keeps at a place of its own stays as it is, whatever
    happens elsewhere (`loaded_add`, `loaded_change`). -/

namespace SchemaGate.TableMemory

variable (m : TableMemory)

theorem content_add_of_lt {place : Nat} (h : place < m.next) (table : Mappings) :
    (m.add table).content place = m.content place := by
  rw [content, content, add, List.getElem?_append_left h]

@[simp] theorem content_add_next (table : Mappings) : (m.add table).content m.next = table := by
  simp [content, add, next]

@[simp] theorem next_add (table : Mappings) : (m.add table).next = m.next + 1 := by simp [next, add]

@[simp] theorem kept_add (table : Mappings) : (m.add table).kept = m.kept := rfl

@[simp] theorem next_change (place : Nat) (f : Mappings → Mappings) : (m.change place f).next = m.next := by
  simp [next, change]

@[simp] theorem kept_change (place : Nat) (f : Mappings → Mappings) : (m.change place f).kept = m.kept := rfl

theorem content_change_of_ne {place other : Nat} (h : place ≠ other) (f : Mappings → Mappings) :
    (m.change place f).content other = m.content other := by
  simp [content, change, h]

theorem keep_of_lt {place : Nat} (h : place < m.next) :
    (m.keep place).contents = m.contents ∧ (m.keep place).kept = some place := by
  rw [keep, dif_pos h]
  exact ⟨rfl, rfl⟩

/-- The resolver keeps the table that was made last. -/
def keepNew (table : Mappings) : TableMemory := (m.add table).keep m.next

theorem keepNew_spec (table : Mappings) :
    (m.keepNew table).contents = (m.add table).contents ∧ (m.keepNew table).kept = some m.next :=
  keep_of_lt _ (by simp)

theorem content_keepNew (table : Mappings) (place : Nat) :
    (m.keepNew table).content place = (m.add table).content place := by
  rw [content, (m.keepNew_spec table).1, ← content]

@[simp] theorem next_keepNew (table : Mappings) : (m.keepNew table).next = m.next + 1 := by
  rw [next, (m.keepNew_spec table).1, ← next, next_add]

@[simp] theorem loaded_keepNew (table : Mappings) : (m.keepNew table).loaded = some table := by
  rw [loaded, (m.keepNew_spec table).2, Option.map_some, content_keepNew, content_add_next]

theorem loaded_eq_none_iff : m.loaded = none ↔ m.kept = none := Option.map_eq_none_iff

/-- Tables that leave alone what the resolver keeps leave it loaded. -/
theorem loaded_congr {m m' : TableMemory} (hkept : m'.kept = m.kept)
    (hcontent : ∀ place ∈ m.kept, m'.content place = m.content place) : m'.loaded = m.loaded := by
  rw [loaded, loaded, hkept]
  exact Option.map_congr hcontent

@[simp] theorem loaded_add (table : Mappings) : (m.add table).loaded = m.loaded :=
  loaded_congr rfl fun place h => m.content_add_of_lt (m.kept_lt place h) table

theorem loaded_change {place : Nat} (h : place ∉ m.kept) (f : Mappings → Mappings) :
    (m.change place f).loaded = m.loaded := by
  refine loaded_congr rfl fun other hother => m.content_change_of_ne ?_ f
  rintro rfl
  exact h hother

@[simp] theorem loaded_empty : empty.loaded = none := rfl

@[simp] theorem loaded_holding (table : Mappings) : (holding table).loaded = some table := rfl

end SchemaGate.TableMemory
