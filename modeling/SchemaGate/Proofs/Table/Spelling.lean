import SchemaGate.Proofs.Text.CodePoints
import SchemaGate.Table.Basic

/-! Keys and values as they are written.

    A character may be written as it is, behind a backslash, with a letter that names it, or with its
    number (`Spells`), and a text as its characters one behind the other (`Spelling`). Every text
    has such a spelling, `unescape` gives the text back, and nothing in a spelling ends a line,
    starts a comment, ends a key or continues the line. -/

namespace SchemaGate.Table

/-! ### Written characters -/

/-- Characters that are written with a backslash in front of them. -/
def markedChars : List Char := ['\\', '=', ':', '#', '!', ' ']

/-- White space that a letter behind a backslash names. -/
def namedChars : List (Char × Char) := [('t', '\t'), ('n', '\n'), ('r', '\r'), ('f', '\x0c')]

/-- May the character be written as it is? -/
def isPlain (c : CodePoint) : Bool :=
  !c.isBlank && !c.isLineEnd && !isSeparator c && !isCommentMark c && c != .char '\\'

/-- `Spells c w`: the character `c` may be written as `w`. -/
inductive Spells : CodePoint → Text → Prop
  | plain {c : CodePoint} (h : isPlain c) : Spells c [c]
  | marked {c : Char} (h : c ∈ markedChars) : Spells (.char c) [.char '\\', .char c]
  | named {l c : Char} (h : (l, c) ∈ namedChars) : Spells (.char c) [.char '\\', .char l]
  | number {c x y z u : CodePoint} {i j k l : Nat} (hx : x.hexDigit? = some i)
      (hy : y.hexDigit? = some j) (hz : z.hexDigit? = some k) (hu : u.hexDigit? = some l)
      (hc : c.value = 16 * (16 * (16 * i + j) + k) + l) :
      Spells c [.char '\\', .char 'u', x, y, z, u]

/-- `Spelling t w`: the text `t` may be written as `w`. -/
inductive Spelling : Text → Text → Prop
  | nil : Spelling [] []
  | cons {c : CodePoint} {w t ws : Text} (hc : Spells c w) (ht : Spelling t ws) :
      Spelling (c :: t) (w ++ ws)

/-! ### Character classes -/

theorem isPlain_iff {c : CodePoint} : isPlain c = true ↔ c.isBlank = false ∧ c.isLineEnd = false ∧
    isSeparator c = false ∧ isCommentMark c = false ∧ c ≠ .char '\\' := by
  simp only [isPlain, Bool.and_eq_true, Bool.not_eq_true', bne_iff_ne, and_assoc]

theorem of_mem_markedChars {c : Char} (h : c ∈ markedChars) :
    c ≠ 'u' ∧ escaped (.char c) = .char c ∧ (CodePoint.char c).isLineEnd = false := by
  simp only [markedChars, List.mem_cons, List.not_mem_nil, or_false] at h
  rcases h with rfl | rfl | rfl | rfl | rfl | rfl <;> decide

theorem of_mem_namedChars {l c : Char} (h : (l, c) ∈ namedChars) : l ≠ 'u' ∧ l ≠ '\\' ∧
    escaped (.char l) = .char c ∧ (CodePoint.char l).isLineEnd = false := by
  simp only [namedChars, List.mem_cons, Prod.mk.injEq, List.not_mem_nil, or_false] at h
  rcases h with ⟨rfl, rfl⟩ | ⟨rfl, rfl⟩ | ⟨rfl, rfl⟩ | ⟨rfl, rfl⟩ <;> decide

theorem isBlank_of_isLineEnd {c : CodePoint} (h : c.isLineEnd = true) : c.isBlank = true := by
  simp only [CodePoint.isLineEnd, CodePoint.isBlank, CodePoint.within, CodePoint.blankRanges,
    List.any_cons, List.any_nil, Bool.or_false, Bool.or_eq_true, Bool.and_eq_true,
    decide_eq_true_eq] at h ⊢
  omega

theorem range_of_isBlank {c : CodePoint} (h : c.isBlank = true) :
    (0x9 ≤ c.value ∧ c.value ≤ 0x20) ∨ (0x85 ≤ c.value ∧ c.value ≤ 0x3000) := by
  simp only [CodePoint.isBlank, CodePoint.within, CodePoint.blankRanges, List.any_cons,
    List.any_nil, Bool.or_false, Bool.or_eq_true, Bool.and_eq_true, decide_eq_true_eq] at h
  omega

theorem range_of_hexDigit? {c : CodePoint} {i : Nat} (h : c.hexDigit? = some i) :
    i < 16 ∧ ((0x30 ≤ c.value ∧ c.value ≤ 0x39) ∨ (0x41 ≤ c.value ∧ c.value ≤ 0x46) ∨
      (0x61 ≤ c.value ∧ c.value ≤ 0x66)) := by
  simp only [CodePoint.hexDigit?, Bool.and_eq_true, decide_eq_true_eq] at h
  split at h
  · simp only [Option.some.injEq] at h
    omega
  · split at h
    · simp only [Option.some.injEq] at h
      omega
    · split at h
      · simp only [Option.some.injEq] at h
        omega
      · cases h

/-- A hexadecimal digit differs from every character that is none. -/
theorem ne_of_hexDigit? {c d : CodePoint} {i : Nat} (h : c.hexDigit? = some i)
    (hd : d.hexDigit? = none) : c ≠ d := by
  rintro rfl
  rw [hd] at h
  cases h

theorem isPlain_of_hexDigit? {c : CodePoint} {i : Nat} (h : c.hexDigit? = some i) :
    isPlain c = true := by
  have hr := (range_of_hexDigit? h).2
  have hb : c.isBlank = false := Bool.eq_false_iff.2 fun hb => by
    have := range_of_isBlank hb
    omega
  have hl : c.isLineEnd = false := Bool.eq_false_iff.2 fun hl => by
    rw [isBlank_of_isLineEnd hl] at hb
    cases hb
  have h1 := ne_of_hexDigit? h (d := .char '=') rfl
  have h2 := ne_of_hexDigit? h (d := .char ':') rfl
  have h3 := ne_of_hexDigit? h (d := .char '#') rfl
  have h4 := ne_of_hexDigit? h (d := .char '!') rfl
  exact isPlain_iff.2 ⟨hb, hl, by simp [isSeparator, h1, h2], by simp [isCommentMark, h3, h4],
    ne_of_hexDigit? h rfl⟩

/-! ### Every text can be written -/

theorem value_lt_of_not_isPlain {c : CodePoint} (h : isPlain c = false) : c.value < 0x10000 := by
  have hblank (hb : c.isBlank = true) : c.value < 0x10000 := by
    have := range_of_isBlank hb
    omega
  simp only [isPlain, isSeparator, isCommentMark, bne, Bool.and_eq_false_iff, Bool.not_eq_false',
    Bool.or_eq_true, decide_eq_true_eq, beq_iff_eq] at h
  rcases h with (((h | h) | rfl | rfl) | rfl | rfl) | rfl
  · exact hblank h
  · exact hblank (isBlank_of_isLineEnd h)
  all_goals decide

theorem exists_spells (c : CodePoint) : ∃ w, Spells c w := by
  cases hp : isPlain c with
  | true => exact ⟨_, .plain hp⟩
  | false =>
    have hc := value_lt_of_not_isPlain hp
    refine ⟨_, .number (CodePoint.hexDigit?_digitChar (c.value / 0x1000) (by omega))
      (CodePoint.hexDigit?_digitChar (c.value / 0x100 % 16) (by omega))
      (CodePoint.hexDigit?_digitChar (c.value / 0x10 % 16) (by omega))
      (CodePoint.hexDigit?_digitChar (c.value % 16) (by omega)) (by omega)⟩

theorem exists_spelling (t : Text) : ∃ w, Spelling t w := by
  induction t with
  | nil => exact ⟨[], .nil⟩
  | cons c t ih =>
    obtain ⟨w, hw⟩ := exists_spells c
    obtain ⟨ws, hws⟩ := ih
    exact ⟨w ++ ws, .cons hw hws⟩

/-! ### Numbers -/

theorem groupedHex?_four {x y z u : CodePoint} {i j k l : Nat} (hx : x.hexDigit? = some i)
    (hy : y.hexDigit? = some j) (hz : z.hexDigit? = some k) (hu : u.hexDigit? = some l) :
    groupedHex? [x, y, z, u] = some (16 * (16 * (16 * i + j) + k) + l) := by
  have ha := ne_of_hexDigit? hx (d := .char '_') rfl
  have hb := ne_of_hexDigit? hy (d := .char '_') rfl
  have hc := ne_of_hexDigit? hz (d := .char '_') rfl
  have hd := ne_of_hexDigit? hu (d := .char '_') rfl
  simp [groupedHex?, ha, hb, hc, hd, hx, hy, hz, hu]

theorem toAsciiDigit_of_hexDigit? {c : CodePoint} {i : Nat} (h : c.hexDigit? = some i) :
    toAsciiDigit c = c := by
  have hr := (range_of_hexDigit? h).2
  rw [toAsciiDigit, if_pos (by omega)]

theorem isAsciiSpace_of_hexDigit? {c : CodePoint} {i : Nat} (h : c.hexDigit? = some i) :
    isAsciiSpace c = false := by
  have hr := (range_of_hexDigit? h).2
  simp only [isAsciiSpace, Bool.or_eq_false_iff, Bool.and_eq_false_iff, decide_eq_false_iff_not]
  omega

/-- Four hexadecimal digits are read as the number they spell. -/
theorem escapeNumber?_four {x y z u : CodePoint} {i j k l : Nat} (hx : x.hexDigit? = some i)
    (hy : y.hexDigit? = some j) (hz : z.hexDigit? = some k) (hu : u.hexDigit? = some l) :
    escapeNumber? [x, y, z, u] = some (16 * (16 * (16 * i + j) + k) + l) := by
  have hascii : [x, y, z, u].map toAsciiDigit = [x, y, z, u] := by
    simp [toAsciiDigit_of_hexDigit?, hx, hy, hz, hu]
  have htrim : Text.dropEnd isAsciiSpace ([x, y, z, u].dropWhile isAsciiSpace) = [x, y, z, u] := by
    simp [Text.dropEnd, isAsciiSpace_of_hexDigit?, hx, hu]
  have hsign : splitSign [x, y, z, u] = (false, [x, y, z, u]) := by
    have hp := ne_of_hexDigit? hx (d := .char '+') rfl
    have hm := ne_of_hexDigit? hx (d := .char '-') rfl
    rw [splitSign]
    · rintro _ ⟨⟩
      exact hp rfl
    · rintro _ ⟨⟩
      exact hm rfl
  have hmark : dropHexMark [x, y, z, u] = [x, y, z, u] := by
    have hs := ne_of_hexDigit? hy (d := .char 'x') rfl
    have hb := ne_of_hexDigit? hy (d := .char 'X') rfl
    unfold dropHexMark
    split
    · next heq =>
      simp only [List.cons.injEq] at heq
      obtain ⟨rfl, rfl, rfl⟩ := heq
      rw [if_neg (by rintro (rfl | rfl) <;> contradiction)]
    · rfl
  rw [escapeNumber?]
  simp only [hascii, htrim, hsign, hmark, groupedHex?_four hx hy hz hu, Bool.false_and,
    Bool.false_eq_true, if_false]

theorem escapedUnit?_four {c x y z u : CodePoint} {i j k l : Nat} (hx : x.hexDigit? = some i)
    (hy : y.hexDigit? = some j) (hz : z.hexDigit? = some k) (hu : u.hexDigit? = some l)
    (hc : c.value = 16 * (16 * (16 * i + j) + k) + l) : escapedUnit? x y z u = some c := by
  rw [escapedUnit?, escapeNumber?_four hx hy hz hu, ← hc]
  exact CodePoint.ofValue?_value c

/-! ### Reading back -/

theorem unescape_cons {c : CodePoint} (h : c ≠ .char '\\') (rest : Text) :
    unescape (c :: rest) = c :: unescape rest := by
  rw [unescape]
  · rintro _ _ _ _ _ rfl
    exact absurd rfl h
  · rintro _ _ rfl
    exact absurd rfl h

theorem unescape_escape {c : Char} (h : c ≠ 'u') (rest : Text) :
    unescape (.char '\\' :: .char c :: rest) = escaped (.char c) :: unescape rest := by
  rw [unescape]
  rintro _ _ _ _ _ hc
  simp only [CodePoint.char.injEq] at hc
  exact absurd hc h

theorem Spells.unescape_append {c : CodePoint} {w : Text} (h : Spells c w) (rest : Text) :
    unescape (w ++ rest) = c :: unescape rest := by
  cases h with
  | plain h => exact unescape_cons (isPlain_iff.1 h).2.2.2.2 rest
  | marked h =>
    obtain ⟨hu, he, -⟩ := of_mem_markedChars h
    exact (unescape_escape hu rest).trans (by rw [he])
  | named h =>
    obtain ⟨hu, -, he, -⟩ := of_mem_namedChars h
    exact (unescape_escape hu rest).trans (by rw [he])
  | number hx hy hz hu hc =>
    simp only [List.cons_append, List.nil_append]
    rw [unescape, escapedUnit?_four hx hy hz hu hc]

theorem Spelling.unescape_append {t w : Text} (h : Spelling t w) (rest : Text) :
    unescape (w ++ rest) = t ++ unescape rest := by
  induction h with
  | nil => rfl
  | cons hc _ ih => rw [List.append_assoc, hc.unescape_append, ih, List.cons_append]

/-- What a text is written as stands for the text. -/
theorem Spelling.unescape_eq {t w : Text} (h : Spelling t w) : unescape w = t := by
  simpa [unescape] using h.unescape_append []

/-- A key ends at the end of the line, at a blank and at a separator. -/
def EndsKey (rest : Text) : Prop := ∀ c ∈ rest.head?, isSeparator c || c.isBlank

theorem takeKey_of_endsKey {rest : Text} (h : EndsKey rest) : takeKey rest = ([], rest) := by
  cases rest with
  | nil => rfl
  | cons c rest =>
    have hc : (isSeparator c || c.isBlank) = true := h c rfl
    rw [takeKey, if_pos hc]
    rintro _ _ rfl
    cases hc

theorem takeKey_cons {c : CodePoint} (h : isPlain c = true) (rest : Text) :
    takeKey (c :: rest) = (c :: (takeKey rest).1, (takeKey rest).2) := by
  obtain ⟨hblank, -, hsep, -, hback⟩ := isPlain_iff.1 h
  rw [takeKey, if_neg (by simp [hblank, hsep])]
  rintro _ _ rfl
  exact absurd rfl hback

theorem Spells.takeKey_append {c : CodePoint} {w : Text} (h : Spells c w) (rest : Text) :
    takeKey (w ++ rest) = (w ++ (takeKey rest).1, (takeKey rest).2) := by
  cases h with
  | plain h => exact takeKey_cons h rest
  | marked h => rfl
  | named h => rfl
  | number hx hy hz hu _ =>
    simp only [List.cons_append, List.nil_append]
    rw [takeKey, takeKey_cons (isPlain_of_hexDigit? hx), takeKey_cons (isPlain_of_hexDigit? hy),
      takeKey_cons (isPlain_of_hexDigit? hz), takeKey_cons (isPlain_of_hexDigit? hu)]

/-- A written key is read to its end. -/
theorem Spelling.takeKey_append {t w rest : Text} (h : Spelling t w) (hr : EndsKey rest) :
    takeKey (w ++ rest) = (w, rest) := by
  induction h with
  | nil => exact takeKey_of_endsKey hr
  | cons hc _ ih => rw [List.append_assoc, hc.takeKey_append, ih]

/-! ### Written text on its line -/

theorem Spells.isLineEnd_eq_false {c d : CodePoint} {w : Text} (h : Spells c w) (hd : d ∈ w) :
    d.isLineEnd = false := by
  have hplain {e : CodePoint} (he : isPlain e = true) : e.isLineEnd = false := (isPlain_iff.1 he).2.1
  cases h with
  | plain h =>
    rw [List.mem_singleton.1 hd]
    exact hplain h
  | marked h =>
    rcases List.mem_cons.1 hd with rfl | hd
    · rfl
    · rw [List.mem_singleton.1 hd]
      exact (of_mem_markedChars h).2.2
  | named h =>
    rcases List.mem_cons.1 hd with rfl | hd
    · rfl
    · rw [List.mem_singleton.1 hd]
      exact (of_mem_namedChars h).2.2.2
  | number hx hy hz hu _ =>
    simp only [List.mem_cons, List.not_mem_nil, or_false] at hd
    rcases hd with rfl | rfl | rfl | rfl | rfl | rfl
    · rfl
    · rfl
    · exact hplain (isPlain_of_hexDigit? hx)
    · exact hplain (isPlain_of_hexDigit? hy)
    · exact hplain (isPlain_of_hexDigit? hz)
    · exact hplain (isPlain_of_hexDigit? hu)

theorem Spelling.isLineEnd_eq_false {t w : Text} (h : Spelling t w) :
    ∀ d ∈ w, d.isLineEnd = false := by
  induction h with
  | nil => nofun
  | cons hc _ ih =>
    intro d hd
    rcases List.mem_append.1 hd with hd | hd
    · exact hc.isLineEnd_eq_false hd
    · exact ih d hd

/-- A written character starts with itself or with a backslash. -/
theorem Spells.exists_head {c : CodePoint} {w : Text} (h : Spells c w) :
    ∃ d rest, w = d :: rest ∧ d.isBlank = false ∧ isSeparator d = false ∧
      isCommentMark d = false := by
  cases h with
  | plain h =>
    obtain ⟨hblank, -, hsep, hmark, -⟩ := isPlain_iff.1 h
    exact ⟨_, _, rfl, hblank, hsep, hmark⟩
  | marked _ => exact ⟨_, _, rfl, rfl, rfl, rfl⟩
  | named _ => exact ⟨_, _, rfl, rfl, rfl, rfl⟩
  | number => exact ⟨_, _, rfl, rfl, rfl, rfl⟩

/-- What a text that is not empty is written as starts with no blank, separator or comment mark. -/
theorem Spelling.exists_head {t w : Text} (h : Spelling t w) (ht : t ≠ []) :
    ∃ d rest, w = d :: rest ∧ d.isBlank = false ∧ isSeparator d = false ∧
      isCommentMark d = false := by
  cases h with
  | nil => exact absurd rfl ht
  | cons hc _ =>
    obtain ⟨d, rest, rfl, hd⟩ := hc.exists_head
    exact ⟨d, _, rfl, hd⟩

theorem isContinued_concat {c : CodePoint} (h : c ≠ .char '\\') (line : Text) :
    isContinued (line ++ [c]) = false := by
  simp [isContinued, h]

theorem isContinued_pair (line : Text) :
    isContinued (line ++ [.char '\\', .char '\\']) = isContinued line := by
  have hrev : (line ++ [CodePoint.char '\\', .char '\\']).reverse =
      .char '\\' :: .char '\\' :: line.reverse := by
    rw [List.reverse_append]
    rfl
  rw [isContinued, hrev, List.takeWhile_cons_of_pos rfl, List.takeWhile_cons_of_pos rfl,
    List.length_cons, List.length_cons, Nat.add_assoc, Nat.add_mod_right, isContinued]

theorem Spells.isContinued_append {c : CodePoint} {w line : Text} (h : Spells c w)
    (hl : isContinued line = false) : isContinued (line ++ w) = false := by
  cases h with
  | plain h => exact isContinued_concat (isPlain_iff.1 h).2.2.2.2 line
  | @marked c h =>
    by_cases hc : c = '\\'
    · rw [hc, isContinued_pair, hl]
    · rw [← List.singleton_append, ← List.append_assoc]
      exact isContinued_concat (by simpa using hc) _
  | @named l c h =>
    rw [← List.singleton_append, ← List.append_assoc]
    exact isContinued_concat (by simpa using (of_mem_namedChars h).2.1) _
  | @number _ x y z u _ _ _ _ _ _ _ hu _ =>
    have hend : line ++ [.char '\\', .char 'u', x, y, z, u] =
        line ++ [.char '\\', .char 'u', x, y, z] ++ [u] := by simp
    rw [hend]
    exact isContinued_concat (ne_of_hexDigit? hu rfl) _

/-- Behind what is not continued, backslashes stand in pairs. -/
theorem Spelling.isContinued_append {t w line : Text} (h : Spelling t w)
    (hl : isContinued line = false) : isContinued (line ++ w) = false := by
  induction h generalizing line with
  | nil => rwa [List.append_nil]
  | cons hc _ ih =>
    rw [← List.append_assoc]
    exact ih (hc.isContinued_append hl)

end SchemaGate.Table
