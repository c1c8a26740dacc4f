import SchemaGate.Proofs.Association
import SchemaGate.Proofs.Text.Words
import SchemaGate.Xml.SchemaLocation

/-! Schema location hints.

    The hints of an element are one list of entries: the words of its list two by two, and behind them its
    location without a namespace. They are written into a table that is empty at first and changes no entry,
    so the first entry of a namespace is the one that counts (`schemaLocations_eq`, `locationOf?_eq`). A pair
    stands at the words `2 * i` and `2 * i + 1` (`getElem?_pairUp`), hence more words behind a list leave its
    locations alone (`locationOf?_of_longer`). -/

namespace SchemaGate.Xml

open Association

/-! ### Pairs -/

/-- The pairs of a list of words are those of an even and the next odd place. -/
theorem getElem?_pairUp (words : List Text) (i : Nat) (a b : Text) :
    (pairUp words).1[i]? = some (a, b) ↔ words[2 * i]? = some a ∧ words[2 * i + 1]? = some b := by
  match words, i with
  | [], _ => simp [pairUp]
  | [_], i => simp [pairUp]
  | x :: y :: rest, 0 => simp [pairUp]
  | x :: y :: rest, i + 1 =>
    have hpair : (pairUp (x :: y :: rest)).1[i + 1]? = (pairUp rest).1[i]? := rfl
    rw [hpair, getElem?_pairUp rest i a b, Nat.mul_add]
    rfl

/-- A word is left over exactly where their number is odd, and it is the last one. -/
theorem pairUp_snd (words : List Text) :
    (pairUp words).2 = if words.length % 2 = 1 then words.getLast? else none := by
  match words with
  | [] => rfl
  | [_] => rfl
  | x :: y :: rest =>
    have hrest : (pairUp (x :: y :: rest)).2 = (pairUp rest).2 := rfl
    have hlength : (x :: y :: rest).length % 2 = rest.length % 2 := Nat.add_mod_right rest.length 2
    rw [hrest, pairUp_snd rest, hlength]
    cases rest with
    | nil => rfl
    | cons z rest => rw [List.getLast?_cons_cons, List.getLast?_cons_cons]

/-! ### Tables of hints -/

/-- The entries that words make, two by two. -/
def pairHints (words : List Text) : LocationTable := (pairUp words).1.map fun p => (some p.1, p.2)

theorem getElem?_pairHints (words : List Text) (i : Nat) (space location : Text) :
    (pairHints words)[i]? = some (some space, location) ↔
      words[2 * i]? = some space ∧ words[2 * i + 1]? = some location := by
  simp [pairHints, ← getElem?_pairUp]

/-- The entry of a location without a namespace, unless it is blank. -/
def plainHint (noNamespace : Option Text) : LocationTable :=
  let plain := (noNamespace.getD []).trim
  if plain.isEmpty then [] else [(none, plain)]

/-- The table holds the hints in their order, of each namespace the first. -/
theorem schemaLocations_eq (pairList noNamespace : Option Text) :
    (schemaLocations pairList noNamespace).1 =
      complete [] (pairHints (pairList.getD []).words ++ plainHint noNamespace) := by
  rw [complete, List.foldl_append, pairHints, List.foldl_map, plainHint, schemaLocations]
  dsimp only
  split <;> rfl

theorem nodup_schemaLocations (pairList noNamespace : Option Text) :
    ((schemaLocations pairList noNamespace).1.map Prod.fst).Nodup := by
  rw [schemaLocations_eq, keys_complete]
  exact nodup_append_newKeys List.nodup_nil _

theorem locationOf?_eq (pairList noNamespace : Option Text) (key : Option Text) :
    locationOf? (schemaLocations pairList noNamespace).1 key =
      (get? key (pairHints (pairList.getD []).words)).or (get? key (plainHint noNamespace)) := by
  rw [← get?_append, schemaLocations_eq]
  exact get?_complete key [] _

theorem get?_pairHints_none (words : List Text) : get? none (pairHints words) = none := by
  simp [get?_eq_none_iff, pairHints]

theorem get?_plainHint_some (noNamespace : Option Text) (space : Text) :
    get? (some space) (plainHint noNamespace) = none := by
  rw [get?_eq_none_iff, plainHint]
  split <;> simp

/-- The location of a namespace is that of its first pair. -/
theorem locationOf?_some_iff {pairList : Option Text} {words : List Text}
    (hwords : (pairList.getD []).words = words) (noNamespace : Option Text) (space location : Text) :
    locationOf? (schemaLocations pairList noNamespace).1 (some space) = some location ↔
      ∃ i, words[2 * i]? = some space ∧ words[2 * i + 1]? = some location ∧
        ∀ j < i, words[2 * j]? ≠ some space := by
  rw [locationOf?_eq, get?_plainHint_some, Option.or_none, hwords, get?_eq_some_iff]
  simp only [ne_eq, getElem?_pairHints, not_and]
  refine exists_congr fun i => ?_
  rw [and_assoc]
  refine and_congr_right fun _ => and_congr_right fun hlocation => forall₂_congr fun j hj => ?_
  obtain ⟨hlt, -⟩ := List.getElem?_eq_some_iff.1 hlocation
  have hbefore : 2 * j + 1 < words.length := by omega
  -- a word in front of a pair's place has its location as well
  exact ⟨fun h hspace => h _ hspace (List.getElem?_eq_getElem hbefore), fun h _ hspace => absurd hspace h⟩

/-- The location without a namespace is the one that is given, without the blanks around it. -/
theorem locationOf?_none_iff (pairList noNamespace : Option Text) (location : Text) :
    locationOf? (schemaLocations pairList noNamespace).1 none = some location ↔
      ∃ value, noNamespace = some value ∧ value.isBlank = false ∧ value.trim = location := by
  rw [locationOf?_eq, get?_pairHints_none, Option.none_or, plainHint]
  cases noNamespace with
  | none => simp [show Text.trim [] = [] from rfl]
  | some value =>
    have hempty : value.trim.isEmpty = value.isBlank := by
      rw [Bool.eq_iff_iff, List.isEmpty_iff, Text.trim_eq_nil_iff]
    simp only [Option.getD_some, hempty]
    cases hblank : value.isBlank <;> simp [hblank, get?_cons]

/-! ### What the hints say -/

/-- The complaint about a word that no location follows. -/
def leftOverWord (word : Text) : Record :=
  ⟨.warning, .markup, "Odd number of tokens in xsi:schemaLocation, ignoring '" ++ word ++ "'"⟩

/-- What is made of words two by two, and of a location without a namespace: a table and complaints. -/
structure FirstWins (words : List Text) (noNamespace : Option Text) (table : LocationTable)
    (records : List Record) : Prop where
  distinct : (table.map Prod.fst).Nodup
  paired_iff : ∀ space location, locationOf? table (some space) = some location ↔
    ∃ i, words[2 * i]? = some space ∧ words[2 * i + 1]? = some location ∧
      ∀ j < i, words[2 * j]? ≠ some space
  plain_iff : ∀ location, locationOf? table none = some location ↔
    ∃ value, noNamespace = some value ∧ value.isBlank = false ∧ value.trim = location
  odd : words.length % 2 = 1 → ∃ word, words.getLast? = some word ∧ records = [leftOverWord word]
  even : words.length % 2 = 0 → records = []

/-- Complaints are about the word that is left over, if there is one. -/
theorem schemaLocations_snd (pairList noNamespace : Option Text) :
    (schemaLocations pairList noNamespace).2 = (pairUp (pairList.getD []).words).2.toList.map leftOverWord := by
  rw [schemaLocations]
  rcases pairUp (pairList.getD []).words with ⟨pairs, _ | word⟩ <;> rfl

theorem schemaLocations_snd_of_odd {pairList : Option Text} (noNamespace : Option Text)
    (hodd : (pairList.getD []).words.length % 2 = 1) :
    ∃ word, (pairList.getD []).words.getLast? = some word ∧
      (schemaLocations pairList noNamespace).2 = [leftOverWord word] := by
  rw [schemaLocations_snd, pairUp_snd, if_pos hodd]
  cases hlast : (pairList.getD []).words.getLast? with
  | none =>
    rw [List.getLast?_eq_none_iff.1 hlast] at hodd
    cases hodd
  | some word => exact ⟨word, rfl, rfl⟩

theorem schemaLocations_snd_of_even {pairList : Option Text} (noNamespace : Option Text)
    (heven : (pairList.getD []).words.length % 2 = 0) : (schemaLocations pairList noNamespace).2 = [] := by
  rw [schemaLocations_snd, pairUp_snd, if_neg (by omega)]
  rfl

/-- More words behind a list change no location that it gives. -/
theorem locationOf?_of_longer {pairList longer : Option Text} {more : List Text}
    (hlonger : (longer.getD []).words = (pairList.getD []).words ++ more) {noNamespace : Option Text}
    (noNamespace' : Option Text) {space location : Text}
    (h : locationOf? (schemaLocations pairList noNamespace).1 (some space) = some location) :
    locationOf? (schemaLocations longer noNamespace').1 (some space) = some location := by
  obtain ⟨i, hspace, hlocation, hbefore⟩ := (locationOf?_some_iff rfl noNamespace ..).1 h
  obtain ⟨hlt, -⟩ := List.getElem?_eq_some_iff.1 hlocation
  refine (locationOf?_some_iff hlonger noNamespace' ..).2 ⟨i, ?_, ?_, fun j hj => ?_⟩
  · rwa [List.getElem?_append_left (by omega)]
  · rwa [List.getElem?_append_left hlt]
  · rw [List.getElem?_append_left (by omega)]
    exact hbefore j hj

/-- A list of hints is read as pairs of its words, of which there is one list. The first pair of a
namespace counts, and an odd last word is complained of and makes no pair. Where more words follow, the
locations that there are stay what they are. -/
theorem hints_first_wins (pairList noNamespace : Option Text) :
    ∃ words, (∀ ws, Text.Spaced (pairList.getD []) ws ↔ ws = words) ∧
      FirstWins words noNamespace (schemaLocations pairList noNamespace).1
        (schemaLocations pairList noNamespace).2 ∧
      ∀ (longer noNamespace' : Option Text) (more : List Text),
        Text.Spaced (longer.getD []) (words ++ more) →
          ∀ space location, locationOf? (schemaLocations pairList noNamespace).1 (some space) = some location →
            locationOf? (schemaLocations longer noNamespace').1 (some space) = some location := by
  refine ⟨(pairList.getD []).words, fun _ => Text.spaced_iff, ?_, ?_⟩
  · exact {
      distinct := nodup_schemaLocations pairList noNamespace
      paired_iff := locationOf?_some_iff rfl noNamespace
      plain_iff := locationOf?_none_iff pairList noNamespace
      odd := schemaLocations_snd_of_odd noNamespace
      even := schemaLocations_snd_of_even noNamespace }
  · intro longer noNamespace' more hmore space location h
    exact locationOf?_of_longer (Text.spaced_iff.1 hmore).symm noNamespace' h

example : (schemaLocations (some "a x  b y\ta z b") (some " w ")).1 =
    [(some ("a" : Text), ("x" : Text)), (some ("b" : Text), ("y" : Text)), (none, ("w" : Text))] := by
  decide

end SchemaGate.Xml
