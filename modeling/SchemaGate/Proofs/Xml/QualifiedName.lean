import Mathlib.Data.List.TakeWhile
import SchemaGate.Proofs.Text.Occurrence
import SchemaGate.Xml.Unqualified

/-! Names with a namespace in one text.

    A namespace may hold any character, also the brace that closes it in such a text, and the text is cut at
    its first closing brace. So the namespace that is read ends there (`namespaceOf_qualified`), and what
    stands behind that brace is taken for the beginning of the local name (`localName_qualified`). Both are
    right iff the namespace holds no closing brace (`front_eq_self_iff`, `remainder_eq_nil_iff`). -/

namespace SchemaGate.Xml

theorem qualified_some (u part : Text) :
    qualified (some u) part = .char '\x7b' :: (u ++ ([.char '\x7d'] ++ part)) := by
  change ([.char '\x7b'] ++ u ++ [.char '\x7d'] ++ part : Text) = _
  simp

/-! ### The cut -/

/-- A text up to its first closing brace. -/
def front (u : Text) : Text := u.takeWhile (· ≠ .char '\x7d')

/-- What a local name takes over of the namespace in front of it: all behind the first closing brace, and the
brace that closes the namespace. -/
def remainder (u : Text) : Text :=
  if .char '\x7d' ∈ u then (u.dropWhile (· ≠ .char '\x7d')).tail ++ [.char '\x7d'] else []

theorem decide_ne_of_not_mem {u : Text} (h : .char '\x7d' ∉ u) :
    ∀ c ∈ u, decide (c ≠ .char '\x7d') = true := by
  intro c hc
  refine decide_eq_true ?_
  rintro rfl
  exact h hc

theorem front_of_not_mem {u : Text} (h : .char '\x7d' ∉ u) : front u = u :=
  List.takeWhile_eq_self_iff.2 (decide_ne_of_not_mem h)

theorem front_append {a : Text} (ha : .char '\x7d' ∉ a) (b : Text) : front (a ++ .char '\x7d' :: b) = a := by
  rw [front, List.takeWhile_append_of_pos (decide_ne_of_not_mem ha), List.takeWhile_cons_of_neg (by simp),
    List.append_nil]

theorem remainder_append {a : Text} (ha : .char '\x7d' ∉ a) (b : Text) :
    remainder (a ++ .char '\x7d' :: b) = b ++ [.char '\x7d'] := by
  rw [remainder, if_pos (by simp), List.dropWhile_append_of_pos (decide_ne_of_not_mem ha),
    List.dropWhile_cons_of_neg (by simp), List.tail_cons]

theorem remainder_of_not_mem {u : Text} (h : .char '\x7d' ∉ u) : remainder u = [] := if_neg h

theorem not_infix_singleton {u : Text} {c : CodePoint} (h : c ∉ u) : ¬ [c] <:+: u :=
  fun hi => h (hi.subset List.mem_cons_self)

/-- A namespace and a local name behind it are cut where the first closing brace is. -/
theorem cut?_qualified (u part : Text) :
    cut? [.char '\x7d'] (u ++ ([.char '\x7d'] ++ part)) = some (front u, remainder u ++ part) := by
  by_cases hmem : .char '\x7d' ∈ u
  · obtain ⟨a, b, rfl, ha⟩ := List.eq_append_cons_of_mem hmem
    have hsplit : a ++ .char '\x7d' :: b ++ ([.char '\x7d'] ++ part) =
        a ++ ([.char '\x7d'] ++ (b ++ [.char '\x7d'] ++ part)) := by simp
    rw [hsplit, cut?_append (by decide) (not_infix_singleton ha), front_append ha, remainder_append ha]
  · rw [cut?_append (by decide) (not_infix_singleton hmem), front_of_not_mem hmem, remainder_of_not_mem hmem,
      List.nil_append]

theorem namespaceOf_qualified (u part : Text) : namespaceOf (qualified (some u) part) = some (front u) := by
  simp only [qualified_some, namespaceOf, braced?, Option.map_some, cut?_qualified]

theorem localName_qualified (u part : Text) :
    localName (qualified (some u) part) = .ok (remainder u ++ part) := by
  simp only [qualified_some, localName, braced?, cut?_qualified]

theorem front_eq_self_iff {u : Text} : front u = u ↔ .char '\x7d' ∉ u := by
  refine ⟨fun h hmem => ?_, front_of_not_mem⟩
  rw [← h] at hmem
  simpa using List.mem_takeWhile_imp hmem

theorem remainder_eq_nil_iff {u : Text} : remainder u = [] ↔ .char '\x7d' ∉ u := by
  refine ⟨fun h hmem => ?_, remainder_of_not_mem⟩
  rw [remainder, if_pos hmem] at h
  simp at h

/-- An element in a namespace takes what is cut off as its local name for its whole name. -/
theorem Name.withoutSpace_of_space {n : Name} {u : Text} (h : n.space = some u) :
    n.withoutSpace = ofTag (remainder u ++ n.part) := by
  have hlocal : localName n.tag = .ok (remainder u ++ n.part) := by
    rw [tag, h, localName_qualified]
  rw [withoutSpace, h]
  dsimp only
  rw [hlocal]
  rfl

end SchemaGate.Xml
