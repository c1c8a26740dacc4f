import SchemaGate.Json.Printer
import SchemaGate.Json.Reader
import SchemaGate.Proofs.Encoding.Utf8
import SchemaGate.Proofs.Text.CodePoints

/-! Strings and numbers of JSON, written and read back.

    A character is written as it is, with a letter behind a backslash, with its number, or with the
    numbers of the two surrogates of its pair (`Writes`); a character that is no surrogate is read back
    from what is written for it (`Writes.readString`), and so is a string (`readString_printString`).
    An integer is read back if it has no more digits than are read, and if what stands behind it does
    not go on with it (`readNumber_ofInt`). -/

namespace SchemaGate.Json

/-! ### Written characters -/

/-- The letters that name a character behind a backslash. -/
def letters : List (Char × Char) :=
  [('"', '"'), ('\\', '\\'), ('n', '\n'), ('r', '\r'), ('t', '\t'), ('f', '\x0c'), ('b', '\x08')]

/-- `Writes c w`: in a string the character `c` is written as `w`. -/
inductive Writes : CodePoint → Text → Prop
  | letter {l c : Char} (h : (l, c) ∈ letters) : Writes (.char c) [.char '\\', .char l]
  | plain {c : CodePoint} (hquote : c ≠ .char '"') (hbackslash : c ≠ .char '\\')
    (h : 0x20 ≤ c.value ∧ c.value < 0x7F) : Writes c [c]
  | unit {c : CodePoint} (h : c.value < 0x10000) : Writes c (unitEscape c.value)
  | pair {c : CodePoint} (h : 0x10000 ≤ c.value) :
    Writes c (unitEscape (0xD800 + (c.value - 0x10000) / 0x400) ++
      unitEscape (0xDC00 + (c.value - 0x10000) % 0x400))

theorem of_mem_letters {l c : Char} (h : (l, c) ∈ letters) :
    l ≠ 'u' ∧ simpleEscape? (.char l) = some (.char c) ∧ 0x20 ≤ l.toNat ∧ l.toNat < 0x7F := by
  simp only [letters, List.mem_cons, Prod.mk.injEq, List.not_mem_nil, or_false] at h
  rcases h with ⟨rfl, rfl⟩ | ⟨rfl, rfl⟩ | ⟨rfl, rfl⟩ | ⟨rfl, rfl⟩ | ⟨rfl, rfl⟩ | ⟨rfl, rfl⟩ | ⟨rfl, rfl⟩ <;>
    decide

theorem writes_printChar (c : CodePoint) : Writes c (printChar c) := by
  -- the characters that a letter names are told by their numbers
  have hnamed {l d : Char} (h : c.value = d.toNat) (hl : (l, d) ∈ letters) :
      Writes c [.char '\\', .char l] := by
    have hc : c = .char d := CodePoint.value_injective h
    rw [hc]
    exact .letter hl
  simp only [printChar]
  split
  · next h =>
    rw [h]
    exact .letter (l := '"') (by decide)
  next hquote =>
  split
  · next h =>
    rw [h]
    exact .letter (l := '\\') (by decide)
  next hbackslash =>
  split
  · next h => exact hnamed (l := 'n') (d := '\n') h (by decide)
  split
  · next h => exact hnamed (l := 'r') (d := '\r') h (by decide)
  split
  · next h => exact hnamed (l := 't') (d := '\t') h (by decide)
  split
  · next h => exact hnamed (l := 'f') (d := '\x0c') h (by decide)
  split
  · next h => exact hnamed (l := 'b') (d := '\x08') h (by decide)
  split
  · next h => exact .plain hquote hbackslash h
  split
  · next h => exact .unit h
  · next h => exact .pair (Nat.le_of_not_lt h)

/-! ### Escapes -/

theorem hexFour?_hexDigits {n : Nat} (h : n < 0x10000) (rest : Text) :
    hexFour? (Text.hexDigits 4 n ++ rest) = some (n, rest) := by
  have hdigit {d : Nat} (hd : d < 0x10) := CodePoint.hexDigit?_digitChar d hd
  have hvalue : ((n / 0x1000 * 16 + n / 0x100 % 0x10) * 16 + n / 0x10 % 0x10) * 16 + n % 0x10 = n := by
    omega
  rw [Text.hexDigits_four h]
  simp only [List.map_cons, List.map_nil, List.cons_append, List.nil_append, hexFour?,
    hdigit (show n / 0x1000 < 0x10 by omega), hdigit (Nat.mod_lt _ (by decide)), Option.bind_eq_bind,
    Option.bind_some, hvalue]
  rfl

theorem length_hexDigits_four {n : Nat} (h : n < 0x10000) : (Text.hexDigits 4 n).length = 4 := by
  rw [Text.hexDigits_four h]
  rfl

theorem unitEscape_append (n : Nat) (rest : Text) :
    unitEscape n ++ rest = .char '\\' :: .char 'u' :: (Text.hexDigits 4 n ++ rest) := rfl

theorem unitEscape_append_ne_nil (n : Nat) (rest : Text) : unitEscape n ++ rest ≠ [] := by
  rw [unitEscape_append]
  exact List.cons_ne_nil _ _

/-- An escaped unit is read as its number, and then joined to a pair if it begins one. -/
theorem readEscape_unitEscape {n : Nat} (h : n < 0x10000) {rest : Text} (hrest : rest ≠ []) (opening : Text) :
    readEscape opening (.char 'u' :: (Text.hexDigits 4 n ++ rest)) = joinPair n rest := by
  have hlong : 4 < (Text.hexDigits 4 n ++ rest).length := by
    have := List.length_pos_iff.2 hrest
    rw [List.length_append, length_hexDigits_four h]
    omega
  rw [readEscape, if_pos hlong, hexFour?_hexDigits h]

/-- The unit of a character is no half of a pair. -/
theorem joinPair_value (c : Char) (rest : Text) :
    joinPair (CodePoint.char c).value rest = .ok (.char c, rest) := by
  have hnot : ¬ (0xD800 ≤ (CodePoint.char c).value ∧ (CodePoint.char c).value < 0xDC00 ∧ 6 < rest.length) := by
    have := Utf8.toNat_cases c
    rw [CodePoint.value]
    omega
  unfold joinPair
  rw [if_neg hnot, CodePoint.ofValue?_value]
  rfl

/-- The two halves of a pair are joined to the character that they spell. -/
theorem joinPair_pair {c : CodePoint} (h : 0x10000 ≤ c.value) {rest : Text} (hrest : rest ≠ []) :
    joinPair (0xD800 + (c.value - 0x10000) / 0x400)
        (unitEscape (0xDC00 + (c.value - 0x10000) % 0x400) ++ rest) = .ok (c, rest) := by
  have hmax := c.value_lt
  have hlow : 0xDC00 + (c.value - 0x10000) % 0x400 < 0x10000 := by omega
  have hhigh : 0xD800 ≤ 0xD800 + (c.value - 0x10000) / 0x400 ∧
      0xD800 + (c.value - 0x10000) / 0x400 < 0xDC00 ∧
      6 < (unitEscape (0xDC00 + (c.value - 0x10000) % 0x400) ++ rest).length := by
    have := List.length_pos_iff.2 hrest
    rw [unitEscape_append, List.length_cons, List.length_cons, List.length_append,
      length_hexDigits_four hlow]
    omega
  have hvalue : 0x10000 + (0xD800 + (c.value - 0x10000) / 0x400 - 0xD800) * 0x400 +
      (0xDC00 + (c.value - 0x10000) % 0x400 - 0xDC00) = c.value := by
    omega
  unfold joinPair
  rw [if_pos hhigh, unitEscape_append]
  simp only [hexFour?_hexDigits hlow]
  rw [if_pos (by omega), hvalue, CodePoint.ofValue?_value]
  rfl

/-! ### Strings -/

/-- A character in front of a text that was read. -/
def withFirst (c : CodePoint) (result : Except Fault (Text × Text)) : Except Fault (Text × Text) :=
  result.map fun r => (c :: r.1, r.2)

theorem readString_escape {c : CodePoint} {fuel : Nat} {opening escaped rest : Text}
    (h : readEscape opening escaped = .ok (c, rest)) :
    readString opening (fuel + 1) (.char '\\' :: escaped) = withFirst c (readString opening fuel rest) := by
  rw [readString, if_neg (by decide), if_pos rfl, h]
  cases hr : readString opening fuel rest <;>
    simp [withFirst, bind, Except.bind, pure, Except.pure, Except.map, hr]

theorem readString_plain {c : CodePoint} (hquote : c ≠ .char '"') (hescape : c ≠ .char '\\')
    (hvalue : 0x20 ≤ c.value) (fuel : Nat) (opening rest : Text) :
    readString opening (fuel + 1) (c :: rest) = withFirst c (readString opening fuel rest) := by
  rw [readString, if_neg hquote, if_neg hescape, if_neg (by omega)]
  cases hr : readString opening fuel rest <;>
    simp [withFirst, bind, Except.bind, pure, Except.pure, Except.map]

/-- An escaped unit is read as what it is joined to. -/
theorem readString_unitEscape {c : CodePoint} {n : Nat} (h : n < 0x10000) {behind rest : Text} (hbehind : behind ≠ [])
    (hjoin : joinPair n behind = .ok (c, rest)) (fuel : Nat) (opening : Text) :
    readString opening (fuel + 1) (unitEscape n ++ behind) = withFirst c (readString opening fuel rest) := by
  rw [unitEscape_append]
  exact readString_escape ((readEscape_unitEscape h hbehind opening).trans hjoin)

/-- A character is read back from what is written for it. -/
theorem Writes.readString {c : Char} {w : Text} (h : Writes (.char c) w) (fuel : Nat) {rest : Text}
    (hrest : rest ≠ []) (opening : Text) :
    readString opening (fuel + 1) (w ++ rest) = withFirst (.char c) (readString opening fuel rest) := by
  cases h with
  | @letter l _ h =>
    obtain ⟨hu, hsimple, -⟩ := of_mem_letters h
    have hread : readEscape opening (.char l :: rest) = .ok (.char c, rest) := by
      rw [readEscape]
      · simp only [hsimple]
      · exact fun heq => hu (CodePoint.char.inj heq)
    exact readString_escape hread
  | plain hquote hbackslash h => exact readString_plain hquote hbackslash h.1 fuel opening rest
  | unit h => exact readString_unitEscape h hrest (joinPair_value c rest) fuel opening
  | pair h =>
    have hhigh : 0xD800 + ((CodePoint.char c).value - 0x10000) / 0x400 < 0x10000 := by
      have := (CodePoint.char c).value_lt
      omega
    rw [List.append_assoc]
    exact readString_unitEscape hhigh (unitEscape_append_ne_nil _ _) (joinPair_pair h hrest) fuel opening

theorem Writes.ne_nil {c : CodePoint} {w : Text} (h : Writes c w) : w ≠ [] := by
  cases h <;> exact List.cons_ne_nil _ _

theorem readString_flatMap (cs : List Char) {fuel : Nat} (h : cs.length < fuel) (opening rest : Text) :
    readString opening fuel ((cs.map .char).flatMap printChar ++ .char '"' :: rest) =
      .ok (cs.map .char, rest) := by
  induction cs generalizing fuel with
  | nil =>
    obtain ⟨fuel, rfl⟩ := Nat.exists_eq_add_one.2 h
    rw [List.map_nil, List.flatMap_nil, List.nil_append, readString, if_pos rfl]
  | cons c cs ih =>
    rw [List.length_cons] at h
    obtain ⟨fuel, rfl⟩ := Nat.exists_eq_add_one.2 (Nat.zero_lt_of_lt h)
    rw [List.map_cons, List.flatMap_cons, List.append_assoc,
      (writes_printChar (.char c)).readString fuel (by simp) opening, ih (Nat.lt_of_succ_lt_succ h)]
    rfl

/-- A string is read back from behind its opening quote. -/
theorem readString_printString (cs : List Char) (rest : Text) : ∃ inside,
    printString (cs.map .char) ++ rest = .char '"' :: inside ∧
      ∀ opening, readString opening (inside.length + 1) inside = .ok (cs.map .char, rest) := by
  refine ⟨(cs.map .char).flatMap printChar ++ .char '"' :: rest, by simp [printString], fun opening =>
    readString_flatMap cs ?_ opening rest⟩
  have hlong : ∀ ds : List Char, ds.length ≤ ((ds.map .char).flatMap printChar).length := by
    intro ds
    induction ds with
    | nil => exact Nat.zero_le _
    | cons d ds ih =>
      have hpos := List.length_pos_iff.2 (writes_printChar (.char d)).ne_nil
      rw [List.map_cons, List.flatMap_cons, List.length_append, List.length_cons]
      omega
  have hcs := hlong cs
  rw [List.length_append]
  omega

/-! ### Integers -/

/-- What stands behind a value in a text: nothing, a comma or a new line. -/
def EndsValue (rest : Text) : Prop :=
  rest = [] ∨ ∃ more, rest = .char ',' :: more ∨ rest = .char '\n' :: more

theorem isDigit_of_mem_ofNat {n : Nat} {c : CodePoint} (h : c ∈ Text.ofNat n) : isDigit c = true := by
  rw [Text.ofNat_eq] at h
  obtain ⟨d, hd, rfl⟩ := List.mem_map.1 h
  have hdigit := Nat.isDigit_of_mem_toDigits (by decide) (by decide) hd
  rw [Char.isDigit, Bool.and_eq_true, decide_eq_true_eq, decide_eq_true_eq] at hdigit
  rw [isDigit, Bool.and_eq_true, decide_eq_true_eq, decide_eq_true_eq]
  exact hdigit

theorem digitsValue_ofNat (n : Nat) : digitsValue (Text.ofNat n) = n := by
  rw [digitsValue, Text.ofNat_eq, List.foldl_map]
  exact Nat.ofDigitChars_toDigits (by decide) (by decide)

theorem exists_ofNat_eq_cons (n : Nat) : ∃ d ds, Text.ofNat n = d :: ds := by
  refine List.exists_cons_of_ne_nil fun heq => ?_
  rw [Text.ofNat_eq, List.map_eq_nil_iff] at heq
  exact Nat.toDigits_ne_nil heq

/-- A number that is not zero does not start with a zero. -/
theorem exists_ofNat_eq_cons_of_pos {n : Nat} (h : 0 < n) :
    ∃ d ds, Text.ofNat n = d :: ds ∧ d ≠ .char '0' := by
  induction n using Nat.strongRecOn with
  | ind n ih =>
    rw [Text.ofNat_eq]
    by_cases hn : n < 10
    · have hdigit : ∀ m < 10, 0 < m → Nat.digitChar m ≠ '0' := by decide
      rw [Nat.toDigits_of_lt_base hn]
      exact ⟨_, _, rfl, fun heq => hdigit n hn h (CodePoint.char.inj heq)⟩
    · obtain ⟨d, ds, hfront, hd⟩ := ih (n / 10) (by omega) (by omega)
      rw [Text.ofNat_eq] at hfront
      rw [Nat.toDigits_of_base_le (by decide) (Nat.le_of_not_lt hn), List.map_append, hfront]
      exact ⟨d, _, rfl, hd⟩

theorem takeWhole_of_ne {d : CodePoint} (h : d ≠ .char '0') (t : Text) :
    takeWhole (d :: t) = ((d :: t).takeWhile isDigit, (d :: t).dropWhile isDigit) := by
  rw [takeWhole]
  rintro _ heq
  exact h (List.cons.inj heq).1

theorem takeWhole_ofNat (n : Nat) {rest : Text} (hrest : EndsValue rest) :
    takeWhole (Text.ofNat n ++ rest) = (Text.ofNat n, rest) := by
  rcases Nat.eq_zero_or_pos n with rfl | hpos
  · rfl
  · obtain ⟨d, ds, hn, hd⟩ := exists_ofNat_eq_cons_of_pos hpos
    have hdigits : ∀ c ∈ Text.ofNat n, isDigit c = true := fun c => isDigit_of_mem_ofNat
    have hnone : rest.takeWhile isDigit = [] ∧ rest.dropWhile isDigit = rest := by
      rcases hrest with rfl | ⟨more, rfl | rfl⟩ <;> exact ⟨rfl, rfl⟩
    have hwhole := takeWhole_of_ne hd (ds ++ rest)
    rw [← List.cons_append, ← hn] at hwhole
    rw [hwhole, List.takeWhile_append_of_pos hdigits, List.dropWhile_append_of_pos hdigits, hnone.1,
      hnone.2, List.append_nil]

theorem takeSign_ofNat (n : Nat) (rest : Text) :
    takeSign (Text.ofNat n ++ rest) = ([], Text.ofNat n ++ rest) := by
  rw [takeSign]
  rintro more heq
  obtain ⟨d, ds, hn⟩ := exists_ofNat_eq_cons n
  have hdigit := isDigit_of_mem_ofNat (hn ▸ List.mem_cons_self : d ∈ Text.ofNat n)
  rw [hn, List.cons_append] at heq
  rw [(List.cons.inj heq).1] at hdigit
  cases hdigit

/-- The digits of a number behind its sign are read as the number. -/
theorem readNumber_of_takeSign {start sign rest : Text} {n : Nat} (hlimit : (Text.ofNat n).length ≤ digitLimit)
    (hrest : EndsValue rest) (hsign : takeSign start = (sign, Text.ofNat n ++ rest)) :
    readNumber start = .ok (.int (if sign.isEmpty then n else -n), rest) := by
  have hempty : (Text.ofNat n).isEmpty = false := by
    obtain ⟨d, ds, hn⟩ := exists_ofNat_eq_cons n
    rw [hn]
    rfl
  have hfraction : takeFraction rest = ([], rest) := by
    rcases hrest with rfl | ⟨more, rfl | rfl⟩ <;> rfl
  have hexponent : takeExponent rest = ([], rest) := by
    rcases hrest with rfl | ⟨more, rfl | rfl⟩ <;> rfl
  rw [readNumber, hsign]
  simp only [takeWhole_ofNat n hrest, hempty, hfraction, hexponent]
  simp [Nat.not_lt_of_le hlimit, digitsValue_ofNat]

theorem ofInt_negSucc (n : Nat) : Text.ofInt (.negSucc n) = .char '-' :: Text.ofNat (n + 1) := by
  have hstring : toString (Int.negSucc n) = "-" ++ toString (n + 1) := rfl
  rw [Text.ofInt, hstring, Text.ofString, String.toList_append, List.map_append]
  rfl

/-- An integer is read back, unless it has more digits than are read. -/
theorem readNumber_ofInt {n : Int} (h : (Value.int n).isLong = false) {rest : Text} (hrest : EndsValue rest) :
    readNumber (Text.ofInt n ++ rest) = .ok (.int n, rest) := by
  have hlimit : (Text.ofNat n.natAbs).length ≤ digitLimit := Nat.le_of_not_lt (of_decide_eq_false h)
  cases n with
  | ofNat n => exact readNumber_of_takeSign hlimit hrest (takeSign_ofNat n rest)
  | negSucc n =>
    have hsign : takeSign (.char '-' :: (Text.ofNat (n + 1) ++ rest)) =
        ([.char '-'], Text.ofNat (n + 1) ++ rest) := rfl
    rw [ofInt_negSucc]
    exact readNumber_of_takeSign hlimit hrest hsign

end SchemaGate.Json
