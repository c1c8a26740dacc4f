import SchemaGate.Json.Printer

/-! How far JSON is written.

    A value is written whole unless a number in it is too long (`frontAt_eq_none_iff`). Else what is
    written is a front part of its text (`frontAt_isPrefix`). -/

namespace SchemaGate.Json

/-! ### When writing stops -/

mutual

/-- Writing stops at a number that is too long, and nowhere else. -/
theorem frontAt_eq_none_iff (depth : Nat) (v : Value) : frontAt depth v = none ↔ v.holdsLong = false := by
  match v with
  | .null | .bool _ | .decimal _ | .text _ => simp [frontAt, Value.holdsLong, Value.isLong]
  | .int n => simp [frontAt, Value.holdsLong]
  | .list [] => simp [frontAt, Value.holdsLong, Value.anyHoldsLong]
  | .list (v :: vs) =>
    have hv := frontAt_eq_none_iff (depth + 1) v
    have hvs := frontOfItems_eq_none_iff (depth + 1) vs
    rw [frontAt, Value.holdsLong, Value.anyHoldsLong, Bool.or_eq_false_iff, ← hv, ← hvs]
    cases frontAt (depth + 1) v <;> simp
  | .object [] => simp [frontAt, Value.holdsLong, Value.anyFieldHoldsLong]
  | .object ((k, v) :: fs) =>
    have hv := frontAt_eq_none_iff (depth + 1) v
    have hfs := frontOfFields_eq_none_iff (depth + 1) fs
    rw [frontAt, Value.holdsLong, Value.anyFieldHoldsLong, Bool.or_eq_false_iff, ← hv, ← hfs]
    cases frontAt (depth + 1) v <;> simp

theorem frontOfItems_eq_none_iff (depth : Nat) (vs : List Value) :
    frontOfItems depth vs = none ↔ Value.anyHoldsLong vs = false := by
  match vs with
  | [] => simp [frontOfItems, Value.anyHoldsLong]
  | v :: vs =>
    have hv := frontAt_eq_none_iff depth v
    have hvs := frontOfItems_eq_none_iff depth vs
    rw [frontOfItems, Value.anyHoldsLong, Bool.or_eq_false_iff, ← hv, ← hvs]
    cases frontAt depth v <;> simp

theorem frontOfFields_eq_none_iff (depth : Nat) (fs : List (Text × Value)) :
    frontOfFields depth fs = none ↔ Value.anyFieldHoldsLong fs = false := by
  match fs with
  | [] => simp [frontOfFields, Value.anyFieldHoldsLong]
  | (k, v) :: fs =>
    have hv := frontAt_eq_none_iff depth v
    have hfs := frontOfFields_eq_none_iff depth fs
    rw [frontOfFields, Value.anyFieldHoldsLong, Bool.or_eq_false_iff, ← hv, ← hfs]
    cases frontAt depth v <;> simp

end

/-! ### What is written until then -/

mutual

/-- What is written in front of a number that is too long is the front of what would be written. -/
theorem frontAt_isPrefix {depth : Nat} {v : Value} {front : Text} (h : frontAt depth v = some front) :
    front <+: printAt depth v := by
  match v with
  | .null | .bool _ | .decimal _ | .text _ => simp [frontAt] at h
  | .int n =>
    rw [frontAt] at h
    split at h <;> cases h
    exact List.nil_prefix
  | .list [] => simp [frontAt] at h
  | .list (v :: vs) =>
    rw [frontAt] at h
    rw [printAt]
    split at h
    case h_1 inner hv =>
      cases h
      split
      · exact List.nil_prefix
      · simp only [List.append_assoc, List.prefix_append_right_inj]
        exact (frontAt_isPrefix hv).trans (List.prefix_append _ _)
    case h_2 hv =>
      obtain ⟨inner, hvs, rfl⟩ := Option.map_eq_some_iff.1 h
      simp only [List.append_assoc, List.prefix_append_right_inj]
      exact (frontOfItems_isPrefix hvs).trans (List.prefix_append _ _)
  | .object [] => simp [frontAt] at h
  | .object ((k, v) :: fs) =>
    rw [frontAt] at h
    rw [printAt]
    split at h
    case h_1 inner hv =>
      cases h
      simp only [List.append_assoc, List.prefix_append_right_inj]
      exact (frontAt_isPrefix hv).trans (List.prefix_append _ _)
    case h_2 hv =>
      obtain ⟨inner, hfs, rfl⟩ := Option.map_eq_some_iff.1 h
      simp only [List.append_assoc, List.prefix_append_right_inj]
      exact (frontOfFields_isPrefix hfs).trans (List.prefix_append _ _)

theorem frontOfItems_isPrefix {depth : Nat} {vs : List Value} {front : Text}
    (h : frontOfItems depth vs = some front) : front <+: printItems depth vs := by
  match vs with
  | [] => simp [frontOfItems] at h
  | v :: vs =>
    rw [frontOfItems] at h
    rw [printItems]
    split at h
    case h_1 inner hv =>
      cases h
      split
      · exact List.nil_prefix
      · simp only [List.append_assoc, List.prefix_append_right_inj]
        exact (frontAt_isPrefix hv).trans (List.prefix_append _ _)
    case h_2 hv =>
      obtain ⟨inner, hvs, rfl⟩ := Option.map_eq_some_iff.1 h
      simp only [List.append_assoc, List.prefix_append_right_inj]
      exact frontOfItems_isPrefix hvs

theorem frontOfFields_isPrefix {depth : Nat} {fs : List (Text × Value)} {front : Text}
    (h : frontOfFields depth fs = some front) : front <+: printFields depth fs := by
  match fs with
  | [] => simp [frontOfFields] at h
  | (k, v) :: fs =>
    rw [frontOfFields] at h
    rw [printFields]
    split at h
    case h_1 inner hv =>
      cases h
      simp only [List.append_assoc, List.prefix_append_right_inj]
      exact (frontAt_isPrefix hv).trans (List.prefix_append _ _)
    case h_2 hv =>
      obtain ⟨inner, hfs, rfl⟩ := Option.map_eq_some_iff.1 h
      simp only [List.append_assoc, List.prefix_append_right_inj]
      exact frontOfFields_isPrefix hfs

end

end SchemaGate.Json
