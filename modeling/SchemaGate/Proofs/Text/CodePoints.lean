import SchemaGate.Text.Classes

/-! Code points by their numbers, and numbers by their digits. -/

namespace SchemaGate.CodePoint

/-- A code point is the one of its number. -/
theorem ofValue?_value (c : CodePoint) : CodePoint.ofValue? c.value = some c := by
  cases c with
  | char c =>
    have hc : c.toNat.isValidChar := c.valid
    rw [CodePoint.ofValue?, CodePoint.value, dif_pos hc]
    rfl
  | surrogate i =>
    have hi := i.isLt
    have hn : ¬ (0xD800 + i.val).isValidChar := by
      rintro (h | h) <;> omega
    rw [CodePoint.ofValue?, CodePoint.value, dif_neg hn, dif_pos (by omega)]
    exact congrArg (fun i => some (CodePoint.surrogate i)) (Fin.ext (Nat.add_sub_cancel_left ..))

theorem value_injective : Function.Injective value := fun c d h =>
  Option.some.inj ((ofValue?_value c).symm.trans (h ▸ ofValue?_value d))

theorem value_lt (c : CodePoint) : c.value < 0x110000 := by
  cases c with
  | char c =>
    rcases c.valid with h | h
    · exact Nat.lt_trans h (by decide)
    · exact h.2
  | surrogate i =>
    have := i.isLt
    rw [CodePoint.value]
    omega

theorem hexDigit?_digitChar :
    ∀ i < 16, (CodePoint.char (Nat.digitChar i)).hexDigit? = some i := by
  decide

end SchemaGate.CodePoint

namespace SchemaGate.Text

theorem hexDigits_eq (width n : Nat) : hexDigits width n =
    List.replicate (width - (Nat.toDigits 16 n).length) (.char '0') ++ (Nat.toDigits 16 n).map .char := by
  simp [hexDigits, ofString]

/-- The last hexadecimal digit stands behind those of the number without it. -/
theorem hexDigits_succ {width : Nat} (h : 0 < width) (n : Nat) :
    hexDigits (width + 1) n = hexDigits width (n / 0x10) ++ [.char (Nat.digitChar (n % 0x10))] := by
  rw [hexDigits_eq, hexDigits_eq]
  by_cases hn : n < 0x10
  · have hzeros : List.replicate width (CodePoint.char '0') =
        List.replicate (width - 1) (.char '0') ++ [.char '0'] := by
      rw [← List.replicate_succ', Nat.sub_add_cancel h]
    rw [Nat.toDigits_of_lt_base hn, Nat.div_eq_of_lt hn, Nat.mod_eq_of_lt hn,
      Nat.toDigits_of_lt_base (by decide)]
    exact congrArg (· ++ [CodePoint.char (Nat.digitChar n)]) hzeros
  · rw [Nat.toDigits_of_base_le (by decide) (Nat.le_of_not_lt hn)]
    simp

/-- Four hexadecimal digits of a number that has no more. -/
theorem hexDigits_four {n : Nat} (h : n < 0x10000) :
    hexDigits 4 n = [n / 0x1000, n / 0x100 % 0x10, n / 0x10 % 0x10, n % 0x10].map fun d =>
      .char (Nat.digitChar d) := by
  have hfirst : hexDigits 1 (n / 0x1000) = [.char (Nat.digitChar (n / 0x1000))] := by
    rw [hexDigits_eq, Nat.toDigits_of_lt_base (by omega)]
    rfl
  rw [hexDigits_succ (by decide), hexDigits_succ (by decide), hexDigits_succ (by decide)]
  simp [Nat.div_div_eq_div_mul, hfirst]

/-- Decimal digits are characters. -/
theorem ofNat_eq (n : Nat) : ofNat n = (Nat.toDigits 10 n).map .char := by
  rw [ofNat, ofString, Nat.toString_eq_ofList_toDigits, String.toList_ofList]

end SchemaGate.Text
