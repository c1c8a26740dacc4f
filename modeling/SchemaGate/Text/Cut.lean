/-!
Cutting a list at the first occurrence of a pattern. `cut? pattern s` gives what stands before and
after it, so that `s` is always the three pieces in a row.
-/

namespace SchemaGate

variable {α : Type} [DecidableEq α]

/-- What follows the pattern, if the list starts with it. -/
def dropPrefix? : List α → List α → Option (List α)
  | [], s => some s
  | _ :: _, [] => none
  | p :: ps, c :: s => if p = c then dropPrefix? ps s else none

/-- What stands before and after the first occurrence of the pattern. -/
def cut? (pattern : List α) : List α → Option (List α × List α)
  | [] => (dropPrefix? pattern []).map fun after => ([], after)
  | c :: s =>
    match dropPrefix? pattern (c :: s) with
    | some after => some ([], after)
    | none => (cut? pattern s).map fun (before, after) => (c :: before, after)

/-- Does the pattern occur in the list? -/
def occursIn (pattern s : List α) : Bool := (cut? pattern s).isSome

/-- Does the list start with the pattern? -/
def startsWith (pattern s : List α) : Bool := (dropPrefix? pattern s).isSome

theorem dropPrefix?_eq_some {p s after : List α} (h : dropPrefix? p s = some after) :
    s = p ++ after := by
  induction p generalizing s with
  | nil => simpa [dropPrefix?] using h
  | cons x ps ih =>
    cases s with
    | nil => simp [dropPrefix?] at h
    | cons c s =>
      by_cases hx : x = c
      · simp only [dropPrefix?, hx, ↓reduceIte] at h
        simp [hx, ih h]
      · simp [dropPrefix?, hx] at h

/-- The pieces of a cut, put together, are the list. -/
theorem cut?_eq_some {p s before after : List α} (h : cut? p s = some (before, after)) :
    s = before ++ p ++ after := by
  induction s generalizing before with
  | nil =>
    obtain ⟨r, hr, he⟩ := Option.map_eq_some_iff.1 h
    cases he
    exact dropPrefix?_eq_some hr
  | cons c s ih =>
    rw [cut?] at h
    split at h
    · next r hr => cases h; exact dropPrefix?_eq_some hr
    · obtain ⟨⟨b, a⟩, hba, he⟩ := Option.map_eq_some_iff.1 h
      cases he
      simp [ih hba]

/-- What follows a non-empty pattern is shorter than the list. -/
theorem length_lt_of_cut? {p s before after : List α} (hp : p ≠ [])
    (h : cut? p s = some (before, after)) : after.length < s.length := by
  have := congrArg List.length (cut?_eq_some h)
  have := List.length_pos_iff.2 hp
  simp only [List.length_append] at *
  omega

end SchemaGate
