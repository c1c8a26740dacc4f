import SchemaGate.Proofs.Json.RoundTrip

/-! The characters of written JSON.

    JSON is written in printable ASCII and new lines (`Kept.all_isPlain_printAt`): all other characters
    are escaped. -/

namespace SchemaGate.Json

/-- Printable ASCII, and new lines. -/
def isPlain (c : CodePoint) : Bool := c = .char '\n' || (0x20 ≤ c.value && c.value < 0x7F)

theorem all_isPlain_newline (depth : Nat) : (newline depth).all isPlain = true := by
  rw [newline, List.all_cons, List.all_replicate]
  cases 2 * depth <;> rfl

theorem all_isPlain_unitEscape {n : Nat} (h : n < 0x10000) : (unitEscape n).all isPlain = true := by
  have hdigit : ∀ d < 16, isPlain (.char (Nat.digitChar d)) = true := by decide
  have hmark : ("\\u" : Text).all isPlain = true := rfl
  rw [unitEscape, List.all_append, hmark, Text.hexDigits_four h]
  simp [hdigit (n / 0x1000) (by omega), hdigit _ (Nat.mod_lt _ (by decide : 0 < 0x10))]

theorem Writes.all_isPlain {c : CodePoint} {w : Text} (h : Writes c w) : w.all isPlain = true := by
  have hmax := c.value_lt
  cases h with
  | letter h => simp [isPlain, CodePoint.value, (of_mem_letters h).2.2]
  | plain _ _ h => simp [isPlain, h.1, h.2]
  | unit h => exact all_isPlain_unitEscape h
  | pair h =>
    rw [List.all_append, all_isPlain_unitEscape (by omega), all_isPlain_unitEscape (by omega)]
    rfl

theorem all_isPlain_printString (t : Text) : (printString t).all isPlain = true := by
  have hquote : isPlain (.char '"') = true := rfl
  simp [printString, List.all_flatMap, (writes_printChar _).all_isPlain, hquote]

/-- What is printable ASCII or a new line is a text of characters. -/
theorem exists_chars_of_all_isPlain {t : Text} (h : t.all isPlain = true) : ∃ cs : List Char, t = cs.map .char := by
  induction t with
  | nil => exact ⟨[], rfl⟩
  | cons c t ih =>
    rw [List.all_cons, Bool.and_eq_true] at h
    obtain ⟨cs, rfl⟩ := ih h.2
    cases c with
    | char c => exact ⟨c :: cs, rfl⟩
    | surrogate i =>
      have hplain := h.1
      have hlow : ¬ 0xD800 + i.val < 0x7F := by omega
      simp [isPlain, CodePoint.value, hlow] at hplain

theorem isPlain_of_isDigit {c : CodePoint} (h : isDigit c = true) : isPlain c = true := by
  simp only [isDigit, isPlain, Bool.and_eq_true, Bool.or_eq_true, decide_eq_true_eq] at h ⊢
  omega

theorem all_isPlain_ofInt (n : Int) : (Text.ofInt n).all isPlain = true := by
  have hdigits (n : Nat) : (Text.ofNat n).all isPlain = true :=
    List.all_eq_true.2 fun c hc => isPlain_of_isDigit (isDigit_of_mem_ofNat hc)
  cases n with
  | ofNat n => exact hdigits n
  | negSucc n =>
    rw [ofInt_negSucc, List.all_cons, hdigits]
    rfl

theorem all_isPlain_printItems {items : List Value}
    (h : ∀ v ∈ items, ∀ depth, (printAt depth v).all isPlain = true) (depth : Nat) :
    (printItems depth items).all isPlain = true := by
  induction items with
  | nil => rfl
  | cons v vs ih =>
    have hcomma : ("," : Text).all isPlain = true := rfl
    rw [List.forall_mem_cons] at h
    simp only [printItems, List.all_append, hcomma, all_isPlain_newline, h.1 depth, ih h.2, Bool.and_self]

theorem all_isPlain_printFields {fields : List (Text × Value)}
    (h : ∀ f ∈ fields, ∀ depth, (printAt depth f.2).all isPlain = true) (depth : Nat) :
    (printFields depth fields).all isPlain = true := by
  induction fields with
  | nil => rfl
  | cons f fs ih =>
    have hcomma : ("," : Text).all isPlain = true := rfl
    have hcolon : (": " : Text).all isPlain = true := rfl
    rw [List.forall_mem_cons] at h
    simp only [printFields, List.all_append, hcomma, hcolon, all_isPlain_newline, all_isPlain_printString,
      h.1 depth, ih h.2, Bool.and_self]

theorem Kept.all_isPlain_printAt {room : Option Nat} {v : Value} (h : Kept room v) (depth : Nat) :
    (printAt depth v).all isPlain = true := by
  have hcolon : (": " : Text).all isPlain = true := rfl
  induction h generalizing depth with
  | null => rfl
  | bool b => cases b <;> rfl
  | int => exact all_isPlain_ofInt _
  | text s => exact all_isPlain_printString s
  | list _ _ ih =>
    next items _ _ =>
    have hopen : ("[" : Text).all isPlain = true := rfl
    have hclose : ("]" : Text).all isPlain = true := rfl
    cases items with
    | nil => rfl
    | cons v vs =>
      rw [List.forall_mem_cons] at ih
      simp only [printAt, List.all_append, hopen, hclose, all_isPlain_newline, ih.1 (depth + 1),
        all_isPlain_printItems ih.2, Bool.and_self]
  | object _ _ _ _ ih =>
    next fields _ _ _ _ =>
    have hopen : ("\x7b" : Text).all isPlain = true := rfl
    have hclose : ("\x7d" : Text).all isPlain = true := rfl
    cases fields with
    | nil => rfl
    | cons f fs =>
      rw [List.forall_mem_cons] at ih
      simp only [printAt, List.all_append, hopen, hclose, hcolon, all_isPlain_newline,
        all_isPlain_printString, ih.1 (depth + 1), all_isPlain_printFields ih.2, Bool.and_self]

end SchemaGate.Json
