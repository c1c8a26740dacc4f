import Mathlib.Algebra.Group.Nat.Defs
import Mathlib.Data.List.Induction
import SchemaGate.Proofs.Table.Spelling

/-! Numbered characters.

    Behind a backslash and a `u` four characters are read as the number of a character if they are one
    (`Numeral`): blanks around it, a sign, a mark of the base and underscores between digits may belong
    to it, and digits of any script count. Four hexadecimal digits are a number of this kind, but not
    the only one, so the rule of four digits holds exactly where no other number stands
    (`decoded_iff_number`). Where no number stands the `u` is left, and reading goes on right behind it. -/

namespace SchemaGate.Table

/-! ### Numbers -/

/-- `Digits t n`: the number `n` in hexadecimal digits, which single underscores may keep apart. -/
inductive Digits : Text → Nat → Prop
  | digit {c : CodePoint} {d : Nat} (h : c.hexDigit? = some d) : Digits [c] d
  | next {t : Text} {n : Nat} {c : CodePoint} {d : Nat} (ht : Digits t n) (h : c.hexDigit? = some d) :
      Digits (t ++ [c]) (16 * n + d)
  | apart {t : Text} {n : Nat} {c : CodePoint} {d : Nat} (ht : Digits t n) (h : c.hexDigit? = some d) :
      Digits (t ++ [.char '_', c]) (16 * n + d)

/-- What may stand in front of digits to tell their base. -/
def baseMarks : List Text := [[], "0x", "0X", "0x_", "0X_"]

/-- `Numeral t n`: the number `n` in ASCII, with what may stand around its digits. With a minus sign
only zero is a number. -/
inductive Numeral : Text → Nat → Prop
  | around {front sign mark digits back : Text} {n : Nat} (hfront : ∀ c ∈ front, isAsciiSpace c = true)
      (hsign : sign = [] ∨ sign = [.char '+'] ∨ (sign = [.char '-'] ∧ n = 0)) (hmark : mark ∈ baseMarks)
      (hdigits : Digits digits n) (hback : ∀ c ∈ back, isAsciiSpace c = true) :
      Numeral (front ++ (sign ++ (mark ++ digits)) ++ back) n

theorem Digits.exists_last {t : Text} {n : Nat} (h : Digits t n) :
    ∃ front c d, t = front ++ [c] ∧ c.hexDigit? = some d := by
  cases h with
  | digit hc => exact ⟨[], _, _, rfl, hc⟩
  | @next t _ c _ _ hc => exact ⟨t, c, _, rfl, hc⟩
  | @apart t _ c _ _ hc => exact ⟨t ++ [.char '_'], c, _, by simp, hc⟩

theorem Digits.exists_head {t : Text} {n : Nat} (h : Digits t n) :
    ∃ c rest d, t = c :: rest ∧ c.hexDigit? = some d := by
  induction h with
  | digit hc => exact ⟨_, [], _, rfl, hc⟩
  | next _ _ ih =>
    obtain ⟨c, rest, d, rfl, hc⟩ := ih
    exact ⟨c, _, d, rfl, hc⟩
  | apart _ _ ih =>
    obtain ⟨c, rest, d, rfl, hc⟩ := ih
    exact ⟨c, _, d, rfl, hc⟩

theorem Digits.mem {t : Text} {n : Nat} (h : Digits t n) :
    ∀ c ∈ t, c = .char '_' ∨ ∃ d, c.hexDigit? = some d := by
  induction h with
  | digit hc => simp [hc]
  | next _ hc ih =>
    intro c hmem
    rcases List.mem_append.1 hmem with hmem | hmem
    · exact ih c hmem
    · rw [List.mem_singleton.1 hmem]
      exact .inr ⟨_, hc⟩
  | apart _ hc ih =>
    intro c hmem
    simp only [List.mem_append, List.mem_cons, List.not_mem_nil, or_false] at hmem
    rcases hmem with hmem | rfl | rfl
    · exact ih c hmem
    · exact .inl rfl
    · exact .inr ⟨_, hc⟩

theorem Digits.lt {t : Text} {n : Nat} (h : Digits t n) : n < 16 ^ t.length := by
  have hstep {m d k : Nat} (hm : m < 16 ^ k) (hd : d < 16) : 16 * m + d < 16 ^ (k + 1) := by
    rw [Nat.pow_succ]
    omega
  induction h with
  | digit hc => simpa using (range_of_hexDigit? hc).1
  | next _ hc ih =>
    rw [List.length_append]
    exact hstep ih (range_of_hexDigit? hc).1
  | @apart t _ _ _ _ hc ih =>
    have hpow : 16 ^ (t.length + 1) ≤ 16 ^ (t.length + 2) := Nat.pow_le_pow_right (by omega) (by omega)
    rw [List.length_append]
    exact Nat.lt_of_lt_of_le (hstep ih (range_of_hexDigit? hc).1) hpow

/-- The last of several digits. -/
theorem digits_concat_iff {t : Text} {c : CodePoint} {n : Nat} :
    Digits (t ++ [c]) n ↔ ∃ m d, c.hexDigit? = some d ∧ n = 16 * m + d ∧
      ((t = [] ∧ m = 0) ∨ Digits t m ∨ ∃ front, t = front ++ [.char '_'] ∧ Digits front m) := by
  constructor
  · intro h
    generalize ht : t ++ [c] = whole at h
    cases h with
    | @digit c' d hc =>
      have hend : t ++ [c] = [] ++ [c'] := ht
      obtain ⟨rfl, hlast⟩ := List.append_inj' hend rfl
      cases hlast
      exact ⟨0, n, hc, by omega, .inl ⟨rfl, rfl⟩⟩
    | @next t' m c' d hd hc =>
      obtain ⟨rfl, hlast⟩ := List.append_inj' ht rfl
      cases hlast
      exact ⟨m, d, hc, rfl, .inr (.inl hd)⟩
    | @apart t' m c' d hd hc =>
      have hend : t ++ [c] = t' ++ [.char '_'] ++ [c'] := by rw [ht, List.append_assoc]; rfl
      obtain ⟨rfl, hlast⟩ := List.append_inj' hend rfl
      cases hlast
      exact ⟨m, d, hc, rfl, .inr (.inr ⟨t', rfl, hd⟩)⟩
  · rintro ⟨m, d, hc, rfl, ⟨rfl, rfl⟩ | h | ⟨front, rfl, h⟩⟩
    · simpa using Digits.digit hc
    · exact h.next hc
    · simpa using h.apart hc

/-! ### Reading numbers -/

/-- One more character of grouped digits. -/
def digitStep (r : Option (Nat × Bool)) (c : CodePoint) : Option (Nat × Bool) :=
  match r with
  | none => none
  | some (n, afterDigit) =>
    if c = .char '_' then (if afterDigit then some (n, false) else none)
    else c.hexDigit?.map fun d => (16 * n + d, true)

theorem groupedHex?_eq (t : Text) : groupedHex? t =
    match t.foldl digitStep (some (0, false)) with
    | some (n, true) => some n
    | _ => none := rfl

theorem digitStep_eq_some_iff {r : Option (Nat × Bool)} {c : CodePoint} {n : Nat} {afterDigit : Bool} :
    digitStep r c = some (n, afterDigit) ↔
      (c = .char '_' ∧ r = some (n, true) ∧ afterDigit = false) ∨
        ∃ m before d, r = some (m, before) ∧ c.hexDigit? = some d ∧ n = 16 * m + d ∧ afterDigit = true := by
  have hnone : (CodePoint.char '_').hexDigit? = none := rfl
  rcases r with _ | ⟨m, before⟩
  · simp [digitStep]
  · by_cases hc : c = .char '_'
    · cases before <;> simp [digitStep, hc, hnone, eq_comm]
    · simp only [digitStep, hc, if_false, Option.map_eq_some_iff, Prod.mk.injEq, false_and, false_or]
      constructor
      · rintro ⟨d, hd, rfl, rfl⟩
        exact ⟨m, before, d, rfl, hd, rfl, rfl⟩
      · rintro ⟨_, _, d, ⟨⟩, hd, rfl, rfl⟩
        exact ⟨d, hd, rfl, rfl⟩

/-- Digits may be followed by one more or by an underscore, an underscore and nothing at all by a digit. -/
theorem foldl_digitStep_iff (t : Text) : ∀ n,
    (t.foldl digitStep (some (0, false)) = some (n, true) ↔ Digits t n) ∧
      (t.foldl digitStep (some (0, false)) = some (n, false) ↔
        (t = [] ∧ n = 0) ∨ ∃ front, t = front ++ [.char '_'] ∧ Digits front n) := by
  -- from the last character, where both the fold and the digits grow
  induction t using List.reverseRecOn with
  | nil =>
    intro n
    refine ⟨⟨nofun, fun h => ?_⟩, ?_⟩
    · obtain ⟨c, rest, d, hnil, -⟩ := h.exists_head
      cases hnil
    · constructor
      · rintro ⟨⟩
        exact .inl ⟨rfl, rfl⟩
      · rintro (⟨-, rfl⟩ | ⟨front, hnil, -⟩)
        · rfl
        · simp at hnil
  | append_singleton t c ih =>
    intro n
    rw [List.foldl_append, List.foldl_cons, List.foldl_nil, digits_concat_iff]
    generalize t.foldl digitStep (some (0, false)) = r at ih
    constructor
    · rw [digitStep_eq_some_iff]
      constructor
      · rintro (⟨-, -, ⟨⟩⟩ | ⟨m, before, d, hr, hd, hn, -⟩)
        refine ⟨m, d, hd, hn, ?_⟩
        cases before with
        | true => exact .inr (.inl ((ih m).1.1 hr))
        | false => exact ((ih m).2.1 hr).imp_right .inr
      · rintro ⟨m, d, hd, hn, h⟩
        rcases h with h | h | h
        · exact .inr ⟨m, false, d, (ih m).2.2 (.inl h), hd, hn, rfl⟩
        · exact .inr ⟨m, true, d, (ih m).1.2 h, hd, hn, rfl⟩
        · exact .inr ⟨m, false, d, (ih m).2.2 (.inr h), hd, hn, rfl⟩
    · rw [digitStep_eq_some_iff]
      constructor
      · rintro (⟨rfl, hr, -⟩ | ⟨_, _, _, _, _, _, ⟨⟩⟩)
        exact .inr ⟨t, rfl, (ih n).1.1 hr⟩
      · rintro (⟨hnil, -⟩ | ⟨front, hfront, h⟩)
        · simp at hnil
        · obtain ⟨rfl, hlast⟩ := List.append_inj' hfront rfl
          cases hlast
          exact .inl ⟨rfl, (ih n).1.2 h, rfl⟩

theorem groupedHex?_eq_some_iff {t : Text} {n : Nat} : groupedHex? t = some n ↔ Digits t n := by
  rw [← (foldl_digitStep_iff t n).1, groupedHex?_eq]
  rcases t.foldl digitStep (some (0, false)) with _ | ⟨m, _ | _⟩ <;> simp

/-- Nothing but a mark of the base is taken from the front. -/
theorem exists_mark (t : Text) : ∃ mark ∈ baseMarks, t = mark ++ dropHexMark t := by
  rw [dropHexMark.eq_def]
  split
  · next x rest =>
    split
    · next hx =>
      split
      · rcases hx with rfl | rfl
        · exact ⟨"0x_", by decide, rfl⟩
        · exact ⟨"0X_", by decide, rfl⟩
      · rcases hx with rfl | rfl
        · exact ⟨"0x", by decide, rfl⟩
        · exact ⟨"0X", by decide, rfl⟩
    · exact ⟨[], by decide, rfl⟩
  · exact ⟨[], by decide, rfl⟩

theorem dropHexMark_zero {x : Char} {digits : Text} (hx : x = 'x' ∨ x = 'X')
    (h : ∀ rest, digits ≠ .char '_' :: rest) : dropHexMark (.char '0' :: .char x :: digits) = digits := by
  rw [dropHexMark, if_pos hx]
  exact h

theorem dropHexMark_append {mark digits : Text} {n : Nat} (hmark : mark ∈ baseMarks) (h : Digits digits n) :
    dropHexMark (mark ++ digits) = digits := by
  have hunderscore : ∀ rest, digits ≠ .char '_' :: rest := by
    rintro rest rfl
    obtain ⟨c, rest, d, heq, hc⟩ := h.exists_head
    obtain ⟨rfl, -⟩ := List.cons.inj heq
    cases hc
  simp only [baseMarks, List.mem_cons, List.not_mem_nil, or_false] at hmark
  rcases hmark with rfl | rfl | rfl | rfl | rfl
  · rw [List.nil_append, dropHexMark.eq_def]
    split
    · next x rest =>
      -- the second of several digits is none of the letters of a mark
      rw [if_neg]
      have hx := h.mem (.char x) (by simp)
      rintro (rfl | rfl) <;> (obtain hx | ⟨d, hx⟩ := hx <;> cases hx)
    · rfl
  · exact dropHexMark_zero (.inl rfl) hunderscore
  · exact dropHexMark_zero (.inr rfl) hunderscore
  · rfl
  · rfl

theorem splitSign_cases (t : Text) :
    (∃ rest, t = .char '+' :: rest ∧ splitSign t = (false, rest)) ∨
      (∃ rest, t = .char '-' :: rest ∧ splitSign t = (true, rest)) ∨ splitSign t = (false, t) := by
  rw [splitSign.eq_def]
  split
  · exact .inl ⟨_, rfl, rfl⟩
  · exact .inr (.inl ⟨_, rfl, rfl⟩)
  · exact .inr (.inr rfl)

/-- Neither digits nor a mark in front of them begin with a sign or a blank. -/
theorem head_of_digits {mark digits : Text} {n : Nat} (hmark : mark ∈ baseMarks) (h : Digits digits n) :
    ∃ c rest d, mark ++ digits = c :: rest ∧ c.hexDigit? = some d := by
  simp only [baseMarks, List.mem_cons, List.not_mem_nil, or_false] at hmark
  rcases hmark with rfl | rfl | rfl | rfl | rfl
  · exact h.exists_head
  all_goals exact ⟨.char '0', _, 0, rfl, rfl⟩

theorem splitSign_append {sign mark digits : Text} {n : Nat}
    (hsign : sign = [] ∨ sign = [.char '+'] ∨ (sign = [.char '-'] ∧ n = 0)) (hmark : mark ∈ baseMarks)
    (h : Digits digits n) :
    ∃ negative, splitSign (sign ++ (mark ++ digits)) = (negative, mark ++ digits) ∧
      (negative = true → n = 0) := by
  rcases hsign with rfl | rfl | ⟨rfl, hn⟩
  · refine ⟨false, ?_, nofun⟩
    obtain ⟨c, rest, d, heq, hc⟩ := head_of_digits hmark h
    rw [List.nil_append, heq, splitSign]
    · rintro _ ⟨⟩
      cases hc
    · rintro _ ⟨⟩
      cases hc
  · exact ⟨false, rfl, nofun⟩
  · exact ⟨true, rfl, fun _ => hn⟩

theorem exists_trimmed (t : Text) : ∃ front back,
    t = front ++ Text.dropEnd isAsciiSpace (t.dropWhile isAsciiSpace) ++ back ∧
      (∀ c ∈ front, isAsciiSpace c = true) ∧ ∀ c ∈ back, isAsciiSpace c = true := by
  refine ⟨t.takeWhile isAsciiSpace, ((t.dropWhile isAsciiSpace).reverse.takeWhile isAsciiSpace).reverse,
    ?_, ?_, ?_⟩
  · rw [Text.dropEnd, List.append_assoc, ← List.reverse_append, List.takeWhile_append_dropWhile,
      List.reverse_reverse, List.takeWhile_append_dropWhile]
  · exact List.all_eq_true.1 List.all_takeWhile
  · intro c hc
    exact List.all_eq_true.1 List.all_takeWhile c (List.mem_reverse.1 hc)

theorem trimmed_append {front t back : Text} (hfront : ∀ c ∈ front, isAsciiSpace c = true)
    (hback : ∀ c ∈ back, isAsciiSpace c = true) (hhead : ∃ c rest, t = c :: rest ∧ isAsciiSpace c = false)
    (hlast : ∃ rest c, t = rest ++ [c] ∧ isAsciiSpace c = false) :
    Text.dropEnd isAsciiSpace ((front ++ t ++ back).dropWhile isAsciiSpace) = t := by
  have hdrop : (front ++ t ++ back).dropWhile isAsciiSpace = t ++ back := by
    obtain ⟨c, rest, rfl, hc⟩ := hhead
    rw [List.append_assoc, List.dropWhile_append_of_pos hfront, List.cons_append,
      List.dropWhile_cons_of_neg (by simp [hc])]
  obtain ⟨rest, c, rfl, hc⟩ := hlast
  have hreverse : ∀ d ∈ back.reverse, isAsciiSpace d = true := fun d hd => hback d (List.mem_reverse.1 hd)
  rw [hdrop, Text.dropEnd, List.reverse_append, List.dropWhile_append_of_pos hreverse, List.reverse_append,
    List.reverse_singleton, List.singleton_append, List.dropWhile_cons_of_neg (by simp [hc]),
    List.reverse_cons, List.reverse_reverse]

theorem escapeNumber?_of_splitSign {t trimmed rest : Text} {negative : Bool} {n : Nat}
    (ht : Text.dropEnd isAsciiSpace ((t.map toAsciiDigit).dropWhile isAsciiSpace) = trimmed)
    (h : splitSign trimmed = (negative, rest)) :
    escapeNumber? t = some n ↔ Digits (dropHexMark rest) n ∧ (negative = true → n = 0) := by
  rw [escapeNumber?, ← groupedHex?_eq_some_iff]
  simp only [ht, h]
  cases groupedHex? (dropHexMark rest) with
  | none => simp
  | some m =>
    cases negative with
    | false => simp
    | true =>
      by_cases hm : m = 0
      · simp [hm, eq_comm]
      · simp [hm]
        rintro rfl
        exact hm

/-- The number of an escape is what its characters spell. -/
theorem escapeNumber?_eq_some_iff {t : Text} {n : Nat} :
    escapeNumber? t = some n ↔ Numeral (t.map toAsciiDigit) n := by
  constructor
  · intro h
    obtain ⟨front, back, ht, hfront, hback⟩ := exists_trimmed (t.map toAsciiDigit)
    generalize hs : Text.dropEnd isAsciiSpace ((t.map toAsciiDigit).dropWhile isAsciiSpace) = s at ht
    rw [ht]
    rcases splitSign_cases s with ⟨rest, rfl, hsign⟩ | ⟨rest, rfl, hsign⟩ | hsign
    · obtain ⟨hdigits, -⟩ := (escapeNumber?_of_splitSign hs hsign).1 h
      obtain ⟨mark, hmark, hrest⟩ := exists_mark rest
      have hnumeral := Numeral.around hfront (.inr (.inl rfl)) hmark hdigits hback
      rwa [← hrest] at hnumeral
    · obtain ⟨hdigits, hzero⟩ := (escapeNumber?_of_splitSign hs hsign).1 h
      obtain ⟨mark, hmark, hrest⟩ := exists_mark rest
      have hnumeral := Numeral.around hfront (.inr (.inr ⟨rfl, hzero rfl⟩)) hmark hdigits hback
      rwa [← hrest] at hnumeral
    · obtain ⟨hdigits, -⟩ := (escapeNumber?_of_splitSign hs hsign).1 h
      obtain ⟨mark, hmark, hrest⟩ := exists_mark s
      have hnumeral := Numeral.around hfront (.inl rfl) hmark hdigits hback
      rwa [← hrest] at hnumeral
  · intro h
    generalize ht : t.map toAsciiDigit = ascii at h
    cases h with
    | @around front sign mark digits back _ hfront hsign hmark hdigits hback =>
      obtain ⟨negative, hsplit, hzero⟩ := splitSign_append hsign hmark hdigits
      have htrim : Text.dropEnd isAsciiSpace ((t.map toAsciiDigit).dropWhile isAsciiSpace) =
          sign ++ (mark ++ digits) := by
        rw [ht]
        refine trimmed_append hfront hback ?_ ?_
        · obtain ⟨c, rest, d, heq, hc⟩ := head_of_digits hmark hdigits
          rcases hsign with rfl | rfl | ⟨rfl, -⟩
          · exact ⟨c, rest, heq, isAsciiSpace_of_hexDigit? hc⟩
          · exact ⟨_, _, rfl, rfl⟩
          · exact ⟨_, _, rfl, rfl⟩
        · obtain ⟨rest, c, d, rfl, hc⟩ := hdigits.exists_last
          exact ⟨sign ++ (mark ++ rest), c, by simp, isAsciiSpace_of_hexDigit? hc⟩
      rw [escapeNumber?_of_splitSign htrim hsplit, dropHexMark_append hmark hdigits]
      exact ⟨hdigits, hzero⟩

theorem Numeral.lt {t : Text} {n : Nat} (h : Numeral t n) : n < 16 ^ t.length := by
  cases h with
  | @around front sign mark digits back _ _ _ _ hdigits _ =>
    refine Nat.lt_of_lt_of_le hdigits.lt (Nat.pow_le_pow_right (by omega) ?_)
    simp only [List.length_append]
    omega

/-! ### Code points of numbers -/

theorem value_of_ofValue? {n : Nat} {c : CodePoint} (h : CodePoint.ofValue? n = some c) : c.value = n := by
  rw [CodePoint.ofValue?] at h
  by_cases hchar : n.isValidChar
  · rw [dif_pos hchar] at h
    cases h
    rfl
  · rw [dif_neg hchar] at h
    by_cases hsurrogate : 0xD800 ≤ n ∧ n < 0xE000
    · rw [dif_pos hsurrogate] at h
      cases h
      simp only [CodePoint.value]
      omega
    · rw [dif_neg hsurrogate] at h
      cases h

theorem exists_ofValue? {n : Nat} (h : n < 0x110000) : ∃ c, CodePoint.ofValue? n = some c := by
  rw [CodePoint.ofValue?]
  by_cases hchar : n.isValidChar
  · exact ⟨_, dif_pos hchar⟩
  · have hsurrogate : 0xD800 ≤ n ∧ n < 0xE000 := by
      simp only [Nat.isValidChar, not_or, not_and] at hchar
      omega
    exact ⟨_, (dif_neg hchar).trans (dif_pos hsurrogate)⟩

theorem escapedUnit?_eq_some_iff {a b c d unit : CodePoint} :
    escapedUnit? a b c d = some unit ↔ Numeral ([a, b, c, d].map toAsciiDigit) unit.value := by
  rw [escapedUnit?, Option.bind_eq_some_iff, ← escapeNumber?_eq_some_iff]
  constructor
  · rintro ⟨n, hn, hunit⟩
    rwa [value_of_ofValue? hunit]
  · intro hn
    exact ⟨unit.value, hn, CodePoint.ofValue?_value unit⟩

/-- Four characters are a number of no character only if they are no number. -/
theorem escapedUnit?_eq_none_iff {a b c d : CodePoint} :
    escapedUnit? a b c d = none ↔ ¬ ∃ n, Numeral ([a, b, c, d].map toAsciiDigit) n := by
  constructor
  · rintro h ⟨n, hn⟩
    obtain ⟨unit, hunit⟩ := exists_ofValue? (Nat.lt_trans hn.lt (by simp))
    rw [← value_of_ofValue? hunit, ← escapedUnit?_eq_some_iff, h] at hn
    cases hn
  · intro h
    cases hunit : escapedUnit? a b c d with
    | none => rfl
    | some unit => exact absurd ⟨_, escapedUnit?_eq_some_iff.1 hunit⟩ h

/-! ### Reading one character after another -/

/-- The first character that a written text stands for, and what is left to be read. -/
def next? : Text → Option (CodePoint × Text)
  | .char '\\' :: .char 'u' :: a :: b :: c :: d :: rest =>
    match escapedUnit? a b c d with
    | some unit => some (unit, rest)
    | none => some (.char 'u', a :: b :: c :: d :: rest)
  | .char '\\' :: c :: rest => some (escaped c, rest)
  | c :: rest => some (c, rest)
  | [] => none

theorem unescape_eq_next? (t : Text) :
    unescape t = match next? t with
      | some (c, rest) => c :: unescape rest
      | none => [] := by
  fun_cases unescape t with
  | case1 a b c d rest unit hunit => simp [next?, hunit]
  | case2 a b c d rest hunit => simp [next?, hunit]
  | case3 c rest hplain => simp [next?]
  | case4 c rest hplain hbackslash => simp [next?]
  | case5 => rfl

/-- `Reaches text out left`: reading the text comes to where `left` is left, and `out` was read. -/
inductive Reaches (text : Text) : Text → Text → Prop
  | start : Reaches text [] text
  | next {out left rest : Text} {c : CodePoint} (h : Reaches text out left)
      (hnext : next? left = some (c, rest)) : Reaches text (out ++ [c]) rest

theorem Reaches.unescape_eq {text out left : Text} (h : Reaches text out left) :
    unescape text = out ++ unescape left := by
  induction h with
  | start => rfl
  | next _ hnext ih => rw [ih, unescape_eq_next?, hnext, List.append_assoc, List.singleton_append]

/-- From everywhere reading comes to the end. -/
theorem Reaches.to_end {text out left : Text} (h : Reaches text out left) :
    Reaches text (out ++ unescape left) [] := by
  fun_induction unescape left generalizing out with
  | case1 a b c d rest unit hunit ih => simpa using ih (h.next (by simp [next?, hunit]))
  | case2 a b c d rest hunit ih => simpa using ih (h.next (by simp [next?, hunit]))
  | case3 c rest hplain ih => simpa using ih (h.next (by simp [next?]))
  | case4 c rest hplain hbackslash ih => simpa using ih (h.next (by simp [next?]))
  | case5 => simpa using h

/-! ### Escapes -/

/-- A backslash and a `u`, with the text behind them. -/
def backslashU (more : Text) : Text := .char '\\' :: .char 'u' :: more

/-- `SpellsNumber more n rest`: the text starts with four characters that are the number `n`. -/
def SpellsNumber (more : Text) (n : Nat) (rest : Text) : Prop :=
  ∃ a b c d, more = a :: b :: c :: d :: rest ∧ Numeral ([a, b, c, d].map toAsciiDigit) n

/-- `FourDigits more n rest`: the text starts with the number `n` in four hexadecimal digits. -/
def FourDigits (more : Text) (n : Nat) (rest : Text) : Prop :=
  ∃ a b c d i j k l, more = a :: b :: c :: d :: rest ∧ a.hexDigit? = some i ∧ b.hexDigit? = some j ∧
    c.hexDigit? = some k ∧ d.hexDigit? = some l ∧ n = 16 * (16 * (16 * i + j) + k) + l

/-- `Decodes Spelled more`: behind a backslash and a `u` a number is read as its character exactly if it
is spelled in the given way, and else the `u` is read and nothing behind it. -/
def Decodes (Spelled : Text → Nat → Text → Prop) (more : Text) : Prop :=
  ∀ unit rest, next? (backslashU more) = some (unit, rest) ↔
    Spelled more unit.value rest ∨ ((¬ ∃ n left, Spelled more n left) ∧ unit = .char 'u' ∧ rest = more)

theorem FourDigits.spellsNumber {more rest : Text} {n : Nat} (h : FourDigits more n rest) :
    SpellsNumber more n rest := by
  obtain ⟨a, b, c, d, i, j, k, l, rfl, ha, hb, hc, hd, rfl⟩ := h
  exact ⟨a, b, c, d, rfl, escapeNumber?_eq_some_iff.1 (escapeNumber?_four ha hb hc hd)⟩

theorem SpellsNumber.exists_unit {more rest : Text} {n : Nat} (h : SpellsNumber more n rest) :
    ∃ unit : CodePoint, unit.value = n ∧ rest ≠ more := by
  obtain ⟨a, b, c, d, rfl, hn⟩ := h
  obtain ⟨unit, hunit⟩ := exists_ofValue? (Nat.lt_trans hn.lt (by simp))
  refine ⟨unit, value_of_ofValue? hunit, fun heq => ?_⟩
  have hlength := congrArg List.length heq
  simp only [List.length_cons] at hlength
  omega

theorem next?_backslashU_of_length {more : Text} (h : ∀ a b c d rest, more ≠ a :: b :: c :: d :: rest) :
    next? (backslashU more) = some (.char 'u', more) := by
  rw [backslashU, next?]
  · rfl
  · rintro a b c d rest - rfl
    exact h a b c d rest rfl

/-- Behind a backslash and a `u` numbers are decoded, however they are spelled. -/
theorem decodes_spellsNumber (more : Text) : Decodes SpellsNumber more := by
  intro unit rest
  by_cases hlong : ∃ a b c d left, more = a :: b :: c :: d :: left
  · obtain ⟨a, b, c, d, left, rfl⟩ := hlong
    have hspells {n : Nat} {rest : Text} : SpellsNumber (a :: b :: c :: d :: left) n rest ↔
        rest = left ∧ Numeral ([a, b, c, d].map toAsciiDigit) n := by
      constructor
      · rintro ⟨_, _, _, _, ⟨⟩, hn⟩
        exact ⟨rfl, hn⟩
      · rintro ⟨rfl, hn⟩
        exact ⟨a, b, c, d, rfl, hn⟩
    simp only [hspells, backslashU, next?]
    cases hunit : escapedUnit? a b c d with
    | some read =>
      have hn := escapedUnit?_eq_some_iff.1 hunit
      constructor
      · rintro ⟨⟩
        exact .inl ⟨rfl, hn⟩
      · rintro (⟨rfl, hn'⟩ | ⟨hnone, -⟩)
        · rw [← escapedUnit?_eq_some_iff, hunit] at hn'
          cases hn'
          rfl
        · exact absurd ⟨_, _, rfl, hn⟩ hnone
    | none =>
      have hn := not_exists.1 (escapedUnit?_eq_none_iff.1 hunit)
      simp only [hn, and_false, exists_const, not_false_eq_true, true_and, false_or, Option.some.injEq,
        Prod.mk.injEq]
      exact and_congr eq_comm eq_comm
  · have hshort : ∀ n left, ¬ SpellsNumber more n left := by
      rintro n left ⟨a, b, c, d, hmore, -⟩
      exact hlong ⟨a, b, c, d, left, hmore⟩
    rw [next?_backslashU_of_length fun a b c d left hmore => hlong ⟨a, b, c, d, left, hmore⟩]
    simp [hshort, eq_comm]

theorem Decodes.next?_eq {Spelled : Text → Nat → Text → Prop} {more rest : Text} {unit : CodePoint}
    (h : Decodes Spelled more) (hspelled : Spelled more unit.value rest) :
    next? (backslashU more) = some (unit, rest) :=
  (h unit rest).2 (.inl hspelled)

/-- Only four digits are decoded exactly where no other number stands. -/
theorem decodes_fourDigits_iff (more : Text) :
    Decodes FourDigits more ↔ ∀ n rest, SpellsNumber more n rest → FourDigits more n rest := by
  constructor
  · intro h n rest hn
    obtain ⟨unit, rfl, hrest⟩ := hn.exists_unit
    rcases (h unit rest).1 ((decodes_spellsNumber more).next?_eq hn) with hdigits | ⟨-, -, hmore⟩
    · exact hdigits
    · exact absurd hmore hrest
  · intro h unit rest
    have hsame (n : Nat) (left : Text) : FourDigits more n left ↔ SpellsNumber more n left :=
      ⟨FourDigits.spellsNumber, h n left⟩
    simp only [hsame]
    exact decodes_spellsNumber more unit rest

/-! ### Texts with escapes -/

/-- Reading never fails: it comes to the end of every text. Wherever it comes to a backslash and a `u`,
it decodes a number if one stands behind them and else goes on right behind the `u`, and what it reads
there is followed by what is read from there on. Four hexadecimal digits are a number; so only four
digits are decoded exactly where no number is spelled in another way. -/
theorem decoded_iff_number (text : Text) :
    Reaches text (unescape text) [] ∧
      ∀ out more, Reaches text out (backslashU more) →
        (∀ unit rest, next? (backslashU more) = some (unit, rest) →
          Reaches text (out ++ [unit]) rest ∧ unescape text = out ++ unit :: unescape rest) ∧
        Decodes SpellsNumber more ∧
        (∀ n rest, FourDigits more n rest → SpellsNumber more n rest) ∧
        (Decodes FourDigits more ↔ ∀ n rest, SpellsNumber more n rest → FourDigits more n rest) := by
  refine ⟨Reaches.start.to_end, fun out more h => ⟨fun unit rest hnext => ?_, decodes_spellsNumber more,
    fun n rest => FourDigits.spellsNumber, decodes_fourDigits_iff more⟩⟩
  have hread := h.next hnext
  refine ⟨hread, ?_⟩
  rw [hread.unescape_eq, List.append_assoc, List.singleton_append]

/-- An underscore may keep the digits of a number apart. -/
theorem decoded_iff_number_underscore :
    Reaches "a\\u0_41b" "a" (backslashU "0_41b") ∧ unescape "a\\u0_41b" = "aAb" := by
  have h : Reaches "a\\u0_41b" "a" (backslashU "0_41b") := .next .start rfl
  obtain ⟨-, hread⟩ := ((decoded_iff_number _).2 _ _ h).1 (.char 'A') "b" (by decide)
  exact ⟨h, hread⟩

/-- A sign is no hexadecimal digit, but it may stand in front of a number. -/
theorem decodes_fourDigits_plus :
    Reaches "\\u+041" [] (backslashU "+041") ∧ ¬ Decodes FourDigits "+041" := by
  refine ⟨.start, fun h => ?_⟩
  rcases (h (.char 'A') []).1 (by decide) with ⟨a, b, c, d, i, j, k, l, heq, ha, -⟩ | ⟨-, hunit, -⟩
  · cases heq
    cases ha
  · cases hunit

end SchemaGate.Table
