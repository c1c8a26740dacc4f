import Mathlib.Data.List.Induction
import Mathlib.Tactic.Tauto
import SchemaGate.Association

/-! Writing into tables.

    A key that the table does not have goes to its end, so entries with keys of their own are written
    into a table in their order. A table is told by its keys in their order and by the value of each of
    them (`eq_of_keys_of_get?`). Entries that update a table and entries that complete it add the same
    keys (`newKeys`); they differ in which of two values stays. Where several lists of entries make one
    table (`gather`), the last entry of a key counts within a list and the first list among the lists. -/

namespace SchemaGate.Association

variable {κ ν : Type} [DecidableEq κ]

theorem put_of_not_mem {key : κ} {table : List (κ × ν)} (h : key ∉ table.map Prod.fst) (value : ν) :
    put key value table = table ++ [(key, value)] := by
  induction table with
  | nil => rfl
  | cons e table ih =>
    rw [List.map_cons, List.mem_cons, not_or] at h
    rw [put, if_neg (Ne.symm h.1), ih h.2, List.cons_append]

/-- Entries of different keys are written one behind the other. -/
theorem foldl_put {table entries : List (κ × ν)}
    (h : ((table ++ entries).map Prod.fst).Nodup) :
    entries.foldl (fun t e => put e.1 e.2 t) table = table ++ entries := by
  induction entries generalizing table with
  | nil => rw [List.foldl_nil, List.append_nil]
  | cons e entries ih =>
    have hnew : e.1 ∉ table.map Prod.fst := by
      rw [List.map_append, List.nodup_append] at h
      intro hmem
      exact h.2.2 _ hmem _ (by simp) rfl
    rw [List.foldl_cons, put_of_not_mem hnew, ih, List.append_assoc, List.singleton_append]
    rwa [List.append_assoc, List.singleton_append]

/-! ### The value of a key -/

/-- The value in the last entry of a key. -/
def last? (key : κ) (entries : List (κ × ν)) : Option ν := get? key entries.reverse

@[simp] theorem get?_nil (key : κ) : get? key ([] : List (κ × ν)) = none := rfl

theorem get?_cons (key : κ) (e : κ × ν) (table : List (κ × ν)) :
    get? key (e :: table) = if e.1 = key then some e.2 else get? key table := by
  by_cases h : e.1 = key <;> simp [get?, h]

theorem get?_append (key : κ) (table other : List (κ × ν)) :
    get? key (table ++ other) = (get? key table).or (get? key other) := by
  simp [get?, List.find?_append, Option.map_or]

theorem get?_eq_none_iff {key : κ} {table : List (κ × ν)} :
    get? key table = none ↔ key ∉ table.map Prod.fst := by
  induction table with
  | nil => simp
  | cons e table ih =>
    rw [get?_cons, List.map_cons, List.mem_cons, not_or, ← ih]
    by_cases h : e.1 = key
    · simp [h]
    · simp [h, Ne.symm h]

theorem mem_of_get? {key : κ} {value : ν} {table : List (κ × ν)} (h : get? key table = some value) :
    (key, value) ∈ table := by
  obtain ⟨e, hfind, rfl⟩ := Option.map_eq_some_iff.1 h
  obtain rfl : e.1 = key := by simpa using List.find?_some hfind
  exact List.mem_of_find?_eq_some hfind

/-- The first entry of a key gives its value. -/
theorem get?_eq_some_iff {key : κ} {value : ν} {table : List (κ × ν)} : get? key table = some value ↔
    ∃ i : Nat, table[i]? = some (key, value) ∧ ∀ j < i, ∀ v, table[j]? ≠ some (key, v) := by
  constructor
  · intro h
    obtain ⟨e, hfind, rfl⟩ := Option.map_eq_some_iff.1 h
    obtain ⟨he, i, hi, rfl, hbefore⟩ := List.find?_eq_some_iff_getElem.1 hfind
    obtain rfl : table[i].1 = key := by simpa using he
    refine ⟨i, List.getElem?_eq_getElem hi, fun j hj v hv => ?_⟩
    obtain ⟨hlt, heq⟩ := List.getElem?_eq_some_iff.1 hv
    have hother := hbefore j hj
    rw [heq] at hother
    simp at hother
  · rintro ⟨i, hi, hbefore⟩
    obtain ⟨hlt, heq⟩ := List.getElem?_eq_some_iff.1 hi
    have hfind : table.find? (fun e => e.1 = key) = some (key, value) := by
      refine List.find?_eq_some_iff_getElem.2 ⟨by simp, i, hlt, heq, fun j hj => ?_⟩
      have hother := hbefore j hj table[j].2
      rw [List.getElem?_eq_getElem (Nat.lt_trans hj hlt), ne_eq, Option.some_inj] at hother
      simpa using fun hkey => hother (Prod.ext hkey rfl)
    rw [get?, hfind, Option.map_some]

theorem get?_put (key k : κ) (value : ν) (table : List (κ × ν)) :
    get? key (put k value table) = if k = key then some value else get? key table := by
  induction table with
  | nil => rw [put, get?_cons]
  | cons e table ih =>
    rw [put]
    split
    · next he =>
      rw [get?_cons, get?_cons, he]
      split <;> rfl
    · next he =>
      rw [get?_cons, get?_cons, ih]
      by_cases hk : e.1 = key
      · rw [if_pos hk, if_pos hk, if_neg fun h => he (hk.trans h.symm)]
      · rw [if_neg hk, if_neg hk]

theorem last?_cons (key : κ) (e : κ × ν) (entries : List (κ × ν)) :
    last? key (e :: entries) = (last? key entries).or (if e.1 = key then some e.2 else none) := by
  rw [last?, List.reverse_cons, get?_append, get?_cons, get?_nil, last?]

/-- A key with one entry has the same value from either end. -/
theorem last?_of_nodup {table : List (κ × ν)} (h : (table.map Prod.fst).Nodup) (key : κ) :
    last? key table = get? key table := by
  induction table with
  | nil => rfl
  | cons e table ih =>
    rw [List.map_cons, List.nodup_cons] at h
    rw [last?_cons, get?_cons, ih h.2]
    split
    · next he => rw [get?_eq_none_iff.2 (he ▸ h.1), Option.none_or]
    · rw [Option.or_none]

/-! ### Keys in their order -/

/-- The keys that are not known yet, each where it first appears. -/
def newKeys (known keys : List κ) : List κ := (keys.filter fun k => k ∉ known).eraseDups

theorem mem_newKeys {known keys : List κ} {k : κ} : k ∈ newKeys known keys ↔ k ∈ keys ∧ k ∉ known := by
  simp [newKeys]

theorem newKeys_singleton (known : List κ) (k : κ) :
    newKeys known [k] = if k ∈ known then [] else [k] := by
  by_cases h : k ∈ known <;> simp [newKeys, h, List.eraseDups_cons]

theorem newKeys_congr {known known' : List κ} (h : ∀ k, k ∈ known ↔ k ∈ known') (keys : List κ) :
    newKeys known keys = newKeys known' keys := by
  simp only [newKeys, h]

/-- It does not matter how often and in which order keys are known. -/
theorem newKeys_of_newKeys_nil (known keys : List κ) : newKeys (newKeys [] known) keys = newKeys known keys :=
  newKeys_congr (by simp [mem_newKeys]) keys

theorem newKeys_append (known keys more : List κ) :
    newKeys known (keys ++ more) = newKeys known keys ++ newKeys (known ++ keys) more := by
  rw [newKeys, newKeys, newKeys, List.filter_append, List.eraseDups_append, List.removeAll,
    List.filter_filter]
  congr 2
  refine List.filter_congr fun k _ => ?_
  by_cases hk : k ∈ known <;> simp [hk]

theorem nodup_append_newKeys {known : List κ} (h : known.Nodup) (keys : List κ) :
    (known ++ newKeys known keys).Nodup := by
  induction keys using List.reverseRecOn with
  | nil => simpa [newKeys] using h
  | append_singleton keys k ih =>
    rw [newKeys_append, newKeys_singleton, ← List.append_assoc]
    split
    · rwa [List.append_nil]
    · next hk =>
      have hnew : k ∉ known ++ newKeys known keys := by
        rw [List.mem_append, mem_newKeys]
        rw [List.mem_append] at hk
        tauto
      rw [List.nodup_append]
      refine ⟨ih, by simp, ?_⟩
      rintro a ha b hb rfl
      exact hnew (List.mem_singleton.1 hb ▸ ha)

/-- Which keys are new can be told from those that are new to fewer keys. -/
theorem newKeys_newKeys {inner outer : List κ} (h : ∀ k ∈ inner, k ∈ outer) (keys : List κ) :
    newKeys outer (newKeys inner keys) = newKeys outer keys := by
  induction keys using List.reverseRecOn with
  | nil => rfl
  | append_singleton keys k ih =>
    rw [newKeys_append, newKeys_append, newKeys_append, ih]
    congr 1
    rw [newKeys_singleton, newKeys_singleton]
    by_cases hk : k ∈ inner ++ keys
    · rw [if_pos hk, if_pos]
      · rfl
      · rw [List.mem_append] at hk ⊢
        exact hk.imp_left (h k)
    · rw [List.mem_append, not_or] at hk
      simp [newKeys_singleton, mem_newKeys, hk]

/-- A step that writes the key of an entry adds no other key. -/
theorem keys_foldl {step : List (κ × ν) → κ × ν → List (κ × ν)}
    (hstep : ∀ table e,
      (step table e).map Prod.fst = table.map Prod.fst ++ newKeys (table.map Prod.fst) [e.1])
    (table entries : List (κ × ν)) :
    (entries.foldl step table).map Prod.fst =
      table.map Prod.fst ++ newKeys (table.map Prod.fst) (entries.map Prod.fst) := by
  induction entries using List.reverseRecOn with
  | nil => simp [newKeys]
  | append_singleton entries e ih =>
    rw [List.foldl_append, List.foldl_cons, List.foldl_nil, hstep, ih, List.append_assoc, List.map_append,
      newKeys_append]
    congr 2
    refine newKeys_congr (fun k => ?_) _
    simp only [List.mem_append, mem_newKeys]
    tauto

theorem keys_put (key : κ) (value : ν) (table : List (κ × ν)) :
    (put key value table).map Prod.fst = table.map Prod.fst ++ newKeys (table.map Prod.fst) [key] := by
  rw [newKeys_singleton]
  split
  · next h =>
    rw [List.append_nil]
    induction table with
    | nil => cases h
    | cons e table ih =>
      rw [put]
      split
      · rfl
      · next he => rw [List.map_cons, ih ((List.mem_cons.1 h).resolve_left (Ne.symm he)), List.map_cons]
  · next h => rw [put_of_not_mem h, List.map_append, List.map_singleton]

/-! ### Updated and completed tables -/

/-- A table is told by its keys in their order and by the value of each of them. -/
theorem eq_of_keys_of_get? {table other : List (κ × ν)} (hkeys : table.map Prod.fst = other.map Prod.fst)
    (hnodup : (table.map Prod.fst).Nodup) (hget : ∀ key, get? key table = get? key other) :
    table = other := by
  induction table generalizing other with
  | nil => exact (List.map_eq_nil_iff.1 hkeys.symm).symm
  | cons e table ih =>
    obtain ⟨e', other, rfl⟩ : ∃ e' rest, other = e' :: rest := List.exists_cons_of_ne_nil (by
      rintro rfl
      cases hkeys)
    obtain ⟨hkey, hkeys⟩ := List.cons.inj hkeys
    rw [List.map_cons, List.nodup_cons] at hnodup
    have hvalue : e.2 = e'.2 := by
      have hfirst := hget e.1
      rw [get?_cons, get?_cons, if_pos rfl, if_pos hkey.symm] at hfirst
      exact Option.some.inj hfirst
    rw [Prod.ext hkey hvalue, ih hkeys hnodup.2 fun key => ?_]
    by_cases he : e.1 = key
    · subst he
      rw [get?_eq_none_iff.2 hnodup.1, get?_eq_none_iff.2 (hkeys ▸ hnodup.1)]
    · have hrest := hget key
      rwa [get?_cons, get?_cons, if_neg he, if_neg (hkey ▸ he)] at hrest

theorem keys_update (table entries : List (κ × ν)) : (update table entries).map Prod.fst =
    table.map Prod.fst ++ newKeys (table.map Prod.fst) (entries.map Prod.fst) :=
  keys_foldl (fun table e => keys_put e.1 e.2 table) table entries

/-- The last entry of a key overrides the others and the table. -/
theorem get?_update (key : κ) (table entries : List (κ × ν)) :
    get? key (update table entries) = (last? key entries).or (get? key table) := by
  induction entries generalizing table with
  | nil => rfl
  | cons e entries ih =>
    have hstep : update table (e :: entries) = update (put e.1 e.2 table) entries := rfl
    rw [hstep, ih, get?_put, last?_cons, Option.or_assoc]
    congr 1
    split <;> rfl

theorem nodup_update {table : List (κ × ν)} (h : (table.map Prod.fst).Nodup) (entries : List (κ × ν)) :
    ((update table entries).map Prod.fst).Nodup := by
  rw [keys_update]
  exact nodup_append_newKeys h _

/-- It does not matter whether entries update a table one by one or are gathered first. -/
theorem update_update {table other : List (κ × ν)} (h : (table.map Prod.fst).Nodup)
    (ho : (other.map Prod.fst).Nodup) (entries : List (κ × ν)) :
    update table (update other entries) = update (update table other) entries := by
  refine eq_of_keys_of_get? ?_ (nodup_update h _) fun key => ?_
  · rw [keys_update, keys_update, keys_update, keys_update, List.append_assoc, newKeys_append,
      newKeys_newKeys fun k hk => List.mem_append_right _ hk]
    congr 2
    refine newKeys_congr (fun k => ?_) _
    simp only [List.mem_append, mem_newKeys]
    tauto
  · rw [get?_update, get?_update, get?_update, last?_of_nodup (nodup_update ho entries), get?_update,
      last?_of_nodup ho, Option.or_assoc]

theorem has_iff {key : κ} {table : List (κ × ν)} : has key table = true ↔ key ∈ table.map Prod.fst := by
  simp [has]

theorem has_eq_isSome (key : κ) (table : List (κ × ν)) : has key table = (get? key table).isSome := by
  rw [Bool.eq_iff_iff, has_iff, Option.isSome_iff_ne_none, Ne, get?_eq_none_iff, not_not]

theorem keys_putMissing (key : κ) (value : ν) (table : List (κ × ν)) :
    (putMissing key value table).map Prod.fst = table.map Prod.fst ++ newKeys (table.map Prod.fst) [key] := by
  rw [putMissing, newKeys_singleton]
  split
  · next h => rw [if_pos (has_iff.1 h), List.append_nil]
  · next h => rw [if_neg fun hmem => h (has_iff.2 hmem), List.map_append, List.map_singleton]

theorem get?_putMissing (key k : κ) (value : ν) (table : List (κ × ν)) :
    get? key (putMissing k value table) = (get? key table).or (if k = key then some value else none) := by
  rw [putMissing]
  split
  · next h =>
    by_cases hk : k = key
    · have hsome : get? key table ≠ none := by
        rw [Ne, get?_eq_none_iff, not_not, ← hk]
        exact has_iff.1 h
      obtain ⟨v, hv⟩ := Option.ne_none_iff_exists'.1 hsome
      rw [hv, Option.some_or]
    · rw [if_neg hk, Option.or_none]
  · rw [get?_append, get?_cons, get?_nil]

theorem keys_complete (table entries : List (κ × ν)) : (complete table entries).map Prod.fst =
    table.map Prod.fst ++ newKeys (table.map Prod.fst) (entries.map Prod.fst) :=
  keys_foldl (fun table e => keys_putMissing e.1 e.2 table) table entries

/-- The first entry of a key gives its value, unless the table has the key. -/
theorem get?_complete (key : κ) (table entries : List (κ × ν)) :
    get? key (complete table entries) = (get? key table).or (get? key entries) := by
  induction entries generalizing table with
  | nil => exact (Option.or_none ..).symm
  | cons e entries ih =>
    have hstep : complete table (e :: entries) = complete (putMissing e.1 e.2 table) entries := rfl
    rw [hstep, ih, get?_putMissing, Option.or_assoc, get?_cons]
    congr 1
    split <;> rfl

/-- Entries of keys that the table has complete nothing. -/
theorem complete_eq_self {table entries : List (κ × ν)}
    (h : ∀ key ∈ entries.map Prod.fst, key ∈ table.map Prod.fst) : complete table entries = table := by
  induction entries with
  | nil => rfl
  | cons e entries ih =>
    rw [List.map_cons, List.forall_mem_cons] at h
    have hstep : complete table (e :: entries) = complete (putMissing e.1 e.2 table) entries := rfl
    rw [hstep, putMissing, if_pos (has_iff.2 h.1), ih h.2]

/-! ### Several tables -/

/-- One table from several lists of entries. Within a list the last entry of a key is the one that
counts, and of the lists the first that has the key. -/
def gather (lists : List (List (κ × ν))) : List (κ × ν) :=
  lists.foldl (fun table entries => complete table (update [] entries)) []

theorem gather_concat (lists : List (List (κ × ν))) (entries : List (κ × ν)) :
    gather (lists ++ [entries]) = complete (gather lists) (update [] entries) := by
  rw [gather, List.foldl_append]
  rfl

theorem keys_update_nil (entries : List (κ × ν)) :
    (update [] entries).map Prod.fst = newKeys [] (entries.map Prod.fst) := by
  simp [keys_update]

theorem keys_gather (lists : List (List (κ × ν))) :
    (gather lists).map Prod.fst = newKeys [] (lists.flatten.map Prod.fst) := by
  induction lists using List.reverseRecOn with
  | nil => simp [gather, newKeys]
  | append_singleton lists entries ih =>
    rw [gather_concat, keys_complete, ih, keys_update_nil, newKeys_newKeys (by simp), newKeys_of_newKeys_nil,
      List.flatten_append, List.map_append, newKeys_append, List.flatten_singleton, List.nil_append]

theorem get?_gather (key : κ) (lists : List (List (κ × ν))) :
    get? key (gather lists) = lists.findSome? (last? key) := by
  induction lists using List.reverseRecOn with
  | nil => rfl
  | append_singleton lists entries ih =>
    rw [gather_concat, get?_complete, get?_update, ih, get?_nil, Option.or_none, List.findSome?_append,
      List.findSome?_singleton]

/-- What is gathered from more lists completes what was gathered. -/
theorem gather_append (lists more : List (List (κ × ν))) :
    gather (lists ++ more) = complete (gather lists) (gather more) := by
  refine eq_of_keys_of_get? ?_ ?_ fun key => ?_
  · rw [keys_complete, keys_gather, keys_gather, keys_gather, newKeys_newKeys (by simp),
      newKeys_of_newKeys_nil, List.flatten_append, List.map_append, newKeys_append, List.nil_append]
  · rw [keys_gather]
    have hnodup := nodup_append_newKeys List.nodup_nil ((lists ++ more).flatten.map Prod.fst)
    rwa [List.nil_append] at hnodup
  · rw [get?_complete, get?_gather, get?_gather, get?_gather, List.findSome?_append]

/-- A list without a key of its own adds nothing. -/
theorem gather_append_cons {front : List (List (κ × ν))} {entries : List (κ × ν)}
    (h : ∀ key ∈ entries.map Prod.fst, key ∈ front.flatten.map Prod.fst) (behind : List (List (κ × ν))) :
    gather (front ++ entries :: behind) = gather (front ++ behind) := by
  have hsame : complete (gather front) (update [] entries) = gather front := by
    refine complete_eq_self fun key hkey => ?_
    rw [keys_update_nil, mem_newKeys] at hkey
    rw [keys_gather, mem_newKeys]
    exact ⟨h key hkey.1, List.not_mem_nil⟩
  simp only [gather, List.foldl_append, List.foldl_cons] at hsame ⊢
  rw [hsame]

end SchemaGate.Association
