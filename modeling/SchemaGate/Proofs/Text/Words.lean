import Mathlib.Data.List.TakeWhile
import SchemaGate.Text.Classes

/-! Words of a text.

    The words are gathered from the end of the text, with a flag that says whether one is being gathered.
    Told from the front they are the runs without a blank (`Spaced`): every text is spaced that way by its
    words, and by no other list (`spaced_iff`). Trimming leaves nothing exactly where there was nothing but
    blanks (`trim_eq_nil_iff`). -/

namespace SchemaGate.Text

/-- The text ends, or goes on with a blank. -/
def StartsBlank (t : Text) : Prop := ∀ c ∈ t.head?, c.isBlank = true

/-- Words that stand in a text one behind the other, with nothing but blanks around them. -/
inductive Spaced : Text → List Text → Prop
  | nil : Spaced [] []
  | blank {c : CodePoint} {t : Text} {ws : List Text} (hc : c.isBlank = true) (h : Spaced t ws) :
      Spaced (c :: t) ws
  | word {w t : Text} {ws : List Text} (hne : w ≠ []) (hw : ∀ c ∈ w, c.isBlank = false)
      (ht : StartsBlank t) (h : Spaced t ws) : Spaced (w ++ t) (w :: ws)

/-! ### Gathering words -/

/-- One character more in front of the words, of which the first may not be whole yet. -/
def gather (c : CodePoint) (r : List Text × Bool) : List Text × Bool :=
  if c.isBlank then (r.1, false)
  else match r with
    | (w :: ws, true) => ((c :: w) :: ws, true)
    | (ws, _) => ([c] :: ws, true)

/-- The words of a text, and whether it starts with one. -/
def gathered (t : Text) : List Text × Bool := t.foldr gather ([], false)

theorem words_eq_gathered (t : Text) : words t = (gathered t).1 := rfl

theorem Spaced.startsBlank_of_nil {t : Text} (h : Spaced t []) : StartsBlank t := by
  cases h with
  | nil => exact nofun
  | blank hc _ => simpa [StartsBlank] using hc

/-- A character in front of a text that starts with a word becomes part of it. -/
theorem Spaced.longer {c : CodePoint} {t w : Text} {ws : List Text} (hc : c.isBlank = false)
    (hstart : ¬ StartsBlank t) (h : Spaced t (w :: ws)) : Spaced (c :: t) ((c :: w) :: ws) := by
  cases h with
  | blank hd _ => exact absurd (by simpa [StartsBlank] using hd) hstart
  | word _ hw ht h => exact .word (List.cons_ne_nil c w) (List.forall_mem_cons.2 ⟨hc, hw⟩) ht h

theorem gathered_spaced (t : Text) :
    Spaced t (gathered t).1 ∧ ((gathered t).2 = true ↔ ¬ StartsBlank t) := by
  induction t with
  | nil => exact ⟨.nil, by simp [gathered, StartsBlank]⟩
  | cons c t ih =>
    obtain ⟨hspaced, hflag⟩ := ih
    have hstep : gathered (c :: t) = gather c (gathered t) := rfl
    rw [hstep]
    unfold gather
    cases hc : c.isBlank with
    | true => exact ⟨.blank hc hspaced, by simp [StartsBlank, hc]⟩
    | false =>
      have hstarts : ¬ StartsBlank (c :: t) := by simp [StartsBlank, hc]
      rw [if_neg Bool.false_ne_true]
      split
      · next w ws hopen =>
        rw [hopen] at hspaced hflag
        exact ⟨hspaced.longer hc (hflag.1 rfl), iff_of_true rfl hstarts⟩
      · next ws flag hclosed hr =>
        rw [hr] at hspaced hflag
        have ht : StartsBlank t := by
          by_contra hnot
          -- the flag is up, so there is a word to go on with
          cases ws with
          | nil => exact hnot hspaced.startsBlank_of_nil
          | cons w ws => exact hclosed w ws rfl (hflag.2 hnot)
        exact ⟨.word (List.cons_ne_nil c []) (by simpa using hc) ht hspaced, iff_of_true rfl hstarts⟩

/-! ### The words of a text -/

theorem takeWhile_word {w t : Text} (hw : ∀ c ∈ w, c.isBlank = false) (ht : StartsBlank t) :
    (w ++ t).takeWhile (!·.isBlank) = w := by
  rw [List.takeWhile_append_of_pos (by simpa using hw)]
  cases t with
  | nil => simp
  | cons c t =>
    have hc : c.isBlank = true := ht c rfl
    simp [hc]

theorem Spaced.of_blank {c : CodePoint} {t : Text} {ws : List Text} (hc : c.isBlank = true)
    (h : Spaced (c :: t) ws) : Spaced t ws := by
  generalize hs : c :: t = s at h
  cases h with
  | nil => cases hs
  | blank _ h =>
    cases hs
    exact h
  | word hne hw _ _ =>
    obtain ⟨d, w, rfl⟩ := List.exists_cons_of_ne_nil hne
    cases hs
    exact absurd hc (by simp [hw c List.mem_cons_self])

theorem Spaced.of_word {w t : Text} {us : List Text} (hne : w ≠ []) (hw : ∀ c ∈ w, c.isBlank = false)
    (ht : StartsBlank t) (h : Spaced (w ++ t) us) : ∃ ws, us = w :: ws ∧ Spaced t ws := by
  generalize hs : w ++ t = s at h
  cases h with
  | nil => exact absurd (List.append_eq_nil_iff.1 hs).1 hne
  | blank hc _ =>
    obtain ⟨d, w, rfl⟩ := List.exists_cons_of_ne_nil hne
    cases hs
    exact absurd hc (by simp [hw _ List.mem_cons_self])
  | @word w' t' ws _ hw' ht' h =>
    have hsame : w = w' := by rw [← takeWhile_word hw ht, hs, takeWhile_word hw' ht']
    subst hsame
    rw [List.append_cancel_left hs]
    exact ⟨ws, rfl, h⟩

/-- A text is spaced by one list of words. -/
theorem Spaced.unique {t : Text} {ws us : List Text} (h : Spaced t ws) (h' : Spaced t us) : us = ws := by
  induction h generalizing us with
  | nil =>
    generalize hs : ([] : Text) = s at h'
    cases h' with
    | nil => rfl
    | blank => cases hs
    | word hne => exact absurd (List.append_eq_nil_iff.1 hs.symm).1 hne
  | blank hc _ ih => exact ih (h'.of_blank hc)
  | word hne hw ht _ ih =>
    obtain ⟨us, rfl, hrest⟩ := h'.of_word hne hw ht
    rw [ih hrest]

theorem spaced_words (t : Text) : Spaced t t.words := by
  rw [words_eq_gathered]
  exact (gathered_spaced t).1

theorem spaced_iff {t : Text} {ws : List Text} : Spaced t ws ↔ ws = t.words :=
  ⟨(spaced_words t).unique, fun h => h ▸ spaced_words t⟩

/-! ### Trimmed texts -/

theorem trim_eq_nil_iff {t : Text} : t.trim = [] ↔ t.isBlank = true := by
  have hend : t.trim = [] ↔ ∀ c ∈ t.dropWhile CodePoint.isBlank, c.isBlank = true := by
    simp [trim, dropEnd, trimLeft]
  rw [hend, isBlank, List.all_eq_true]
  constructor
  · intro h c hc
    rw [← List.takeWhile_append_dropWhile (p := CodePoint.isBlank) (l := t), List.mem_append] at hc
    exact hc.elim List.mem_takeWhile_imp (h c)
  · exact fun h c hc => h c ((List.dropWhile_suffix _).subset hc)

end SchemaGate.Text
