import SchemaGate.Encoding.Decoder

/-! UTF-8 as it arrives.

    A character is spelled by one to four bytes, and `encodes_one_iff` to `encodes_four_iff` say by
    which. Bytes lead to a character if they begin the bytes of one without completing them
    (`Leads`). The decoder waits exactly as long as its bytes lead on, and answers with a character
    exactly when its bytes spell one; so it reads bytes exactly if they are those of characters,
    with bytes behind that lead to one more (`readBytes_eq_ok_iff`). -/

namespace SchemaGate.Utf8

open Decoder
open String (utf8EncodeChar)

/-- The bytes of characters. -/
def encode (cs : List Char) : Bytes := cs.flatMap utf8EncodeChar

/-- The bytes begin those of a character and do not complete them. -/
def Leads (pending : Bytes) : Prop := ∃ c tail, utf8EncodeChar c = pending ++ tail ∧ tail ≠ []

/-- The bytes are those of the characters, and behind them `rest` leads to one more. -/
def Spells (bytes : Bytes) (cs : List Char) (rest : Bytes) : Prop :=
  bytes = encode cs ++ rest ∧ Leads rest

/-! ### The bytes of one character -/

theorem toNat_cases (c : Char) : c.toNat < 0xD800 ∨ 0xDFFF < c.toNat ∧ c.toNat < 0x110000 := c.valid

theorem exists_char {n : Nat} (h : n < 0xD800 ∨ 0xDFFF < n ∧ n < 0x110000) :
    ∃ c : Char, c.toNat = n := ⟨Char.ofNatAux n h, rfl⟩

theorem map_toNat_utf8EncodeChar (c : Char) : (utf8EncodeChar c).map UInt8.toNat =
    if c.toNat ≤ 0x7F then [c.toNat]
    else if c.toNat ≤ 0x7FF then [c.toNat / 0x40 + 0xC0, c.toNat % 0x40 + 0x80]
    else if c.toNat ≤ 0xFFFF then
      [c.toNat / 0x1000 + 0xE0, c.toNat / 0x40 % 0x40 + 0x80, c.toNat % 0x40 + 0x80]
    else
      [c.toNat / 0x40000 + 0xF0, c.toNat / 0x1000 % 0x40 + 0x80, c.toNat / 0x40 % 0x40 + 0x80,
        c.toNat % 0x40 + 0x80] := by
  have hnum : c.val.toNat = c.toNat := rfl
  have hc := toNat_cases c
  simp only [utf8EncodeChar, hnum]
  repeat' split
  all_goals simp; try omega

/-- Bytes are compared by their numbers. -/
theorem encodes_iff {c : Char} {bytes : Bytes} :
    utf8EncodeChar c = bytes ↔ (utf8EncodeChar c).map UInt8.toNat = bytes.map UInt8.toNat :=
  (List.map_inj_right fun _ _ => UInt8.toNat_inj.1).symm

theorem tailBits_eq (b : UInt8) : tailBits b = b.toNat - 0x80 := rfl

theorem isTail_iff {b : UInt8} : isTail b ↔ 0x80 ≤ b.toNat ∧ b.toNat ≤ 0xBF := by
  simp [isTail, UInt8.le_iff_toNat_le]

theorem isSecond_iff {a b : UInt8} : isSecond a b ↔ (0x80 ≤ b.toNat ∧ b.toNat ≤ 0xBF) ∧
    (a.toNat = 0xE0 → 0xA0 ≤ b.toNat) ∧ (a.toNat = 0xED → b.toNat ≤ 0x9F) ∧
    (a.toNat = 0xF0 → 0x90 ≤ b.toNat) ∧ (a.toNat = 0xF4 → b.toNat ≤ 0x8F) := by
  have hnum (n : UInt8) : a = n ↔ a.toNat = n.toNat := UInt8.toNat_inj.symm
  simp only [isSecond, hnum]
  repeat' split
  all_goals simp_all [UInt8.le_iff_toNat_le, isTail]
  all_goals omega

/-- The second byte is narrowed in longer characters only. -/
theorem isSecond_eq_isTail {a : UInt8} (h : a < 0xE0) (b : UInt8) : isSecond a b = isTail b := by
  grind [isSecond]

theorem encodes_one_iff {c : Char} {a : UInt8} :
    utf8EncodeChar c = [a] ↔ a.toNat < 0x80 ∧ c.toNat = a.toNat := by
  simp only [encodes_iff, map_toNat_utf8EncodeChar]
  repeat' split
  all_goals simp; try omega

theorem encodes_two_iff {c : Char} {a b : UInt8} :
    utf8EncodeChar c = [a, b] ↔ (0xC2 ≤ a.toNat ∧ a.toNat < 0xE0) ∧ isTail b ∧
      c.toNat = (a.toNat - 0xC0) * 0x40 + tailBits b := by
  simp only [encodes_iff, map_toNat_utf8EncodeChar, isTail_iff, tailBits_eq]
  repeat' split
  all_goals simp; try omega

theorem encodes_three_iff {c : Char} {a b d : UInt8} :
    utf8EncodeChar c = [a, b, d] ↔ (0xE0 ≤ a.toNat ∧ a.toNat < 0xF0) ∧ isSecond a b ∧ isTail d ∧
      c.toNat = ((a.toNat - 0xE0) * 0x40 + tailBits b) * 0x40 + tailBits d := by
  have hc := toNat_cases c
  simp only [encodes_iff, map_toNat_utf8EncodeChar, isSecond_iff, isTail_iff, tailBits_eq]
  repeat' split
  all_goals simp; try omega

theorem encodes_four_iff {c : Char} {a b d e : UInt8} :
    utf8EncodeChar c = [a, b, d, e] ↔
      (0xF0 ≤ a.toNat ∧ a.toNat ≤ 0xF4) ∧ isSecond a b ∧ isTail d ∧ isTail e ∧
      c.toNat = (((a.toNat - 0xF0) * 0x40 + tailBits b) * 0x40 + tailBits d) * 0x40 + tailBits e := by
  have hc := toNat_cases c
  simp only [encodes_iff, map_toNat_utf8EncodeChar, isSecond_iff, isTail_iff, tailBits_eq]
  repeat' split
  all_goals simp; try omega

/-! ### Bytes that lead to a character -/

theorem leads_nil : Leads [] := ⟨'a', _, rfl, by decide⟩

theorem Leads.of_append {pending more : Bytes} (h : Leads (pending ++ more)) : Leads pending := by
  obtain ⟨c, tail, hc, ht⟩ := h
  exact ⟨c, more ++ tail, by rw [hc, List.append_assoc], by simp [ht]⟩

theorem Leads.length_lt {pending : Bytes} (h : Leads pending) : pending.length < 4 := by
  obtain ⟨c, tail, hc, ht⟩ := h
  have hlen := congrArg List.length hc
  have hpos := List.length_pos_iff.2 ht
  have hsize := c.utf8Size_le_four
  rw [String.length_utf8EncodeChar, List.length_append] at hlen
  omega

/- Bytes that may lead on are completed by continuation bytes without bits. A longer character is
   reached through the next lemma, with one byte more. -/

theorem leads_three_iff {a b d : UInt8} :
    Leads [a, b, d] ↔ (0xF0 ≤ a.toNat ∧ a.toNat ≤ 0xF4) ∧ isSecond a b ∧ isTail d := by
  constructor
  · rintro ⟨c, tail, hc, ht⟩
    match tail with
    | [e] =>
      obtain ⟨ha, hb, hd, -⟩ := encodes_four_iff.1 hc
      exact ⟨ha, hb, hd⟩
    | e :: f :: tail =>
      have hlong : Leads [a, b, d, e] := ⟨c, f :: tail, hc, by simp⟩
      exact absurd hlong.length_lt (by simp)
  · rintro ⟨ha, hb, hd⟩
    have hnum : ∃ c : Char, c.toNat =
        (((a.toNat - 0xF0) * 0x40 + tailBits b) * 0x40 + tailBits d) * 0x40 + tailBits 0x80 := by
      apply exists_char
      rw [isSecond_iff] at hb
      rw [isTail_iff] at hd
      simp only [tailBits_eq, UInt8.reduceToNat]
      omega
    obtain ⟨c, hc⟩ := hnum
    exact ⟨c, [0x80], encodes_four_iff.2 ⟨ha, hb, hd, rfl, hc⟩, by simp⟩

theorem leads_two_iff {a b : UInt8} :
    Leads [a, b] ↔ (0xE0 ≤ a.toNat ∧ a.toNat ≤ 0xF4) ∧ isSecond a b := by
  constructor
  · rintro ⟨c, tail, hc, ht⟩
    match tail with
    | [d] =>
      obtain ⟨ha, hb, -⟩ := encodes_three_iff.1 hc
      exact ⟨by omega, hb⟩
    | d :: e :: tail =>
      obtain ⟨ha, hb, -⟩ := leads_three_iff.1 ⟨c, e :: tail, hc, by simp⟩
      exact ⟨by omega, hb⟩
  · rintro ⟨ha, hb⟩
    by_cases hf : a.toNat < 0xF0
    · have hnum : ∃ c : Char, c.toNat =
          ((a.toNat - 0xE0) * 0x40 + tailBits b) * 0x40 + tailBits 0x80 := by
        apply exists_char
        rw [isSecond_iff] at hb
        simp only [tailBits_eq, UInt8.reduceToNat]
        omega
      obtain ⟨c, hc⟩ := hnum
      exact ⟨c, [0x80], encodes_three_iff.2 ⟨⟨ha.1, hf⟩, hb, rfl, hc⟩, by simp⟩
    · have hlong : Leads ([a, b] ++ [0x80]) := leads_three_iff.2 ⟨⟨by omega, ha.2⟩, hb, rfl⟩
      exact hlong.of_append

theorem exists_isSecond (a : UInt8) : ∃ b, isSecond a b := by
  by_cases h₀ : a.toNat = 0xE0
  · exact ⟨0xA0, isSecond_iff.2 (by simp only [UInt8.reduceToNat]; omega)⟩
  · by_cases h₁ : a.toNat = 0xF0
    · exact ⟨0x90, isSecond_iff.2 (by simp only [UInt8.reduceToNat]; omega)⟩
    · exact ⟨0x80, isSecond_iff.2 (by simp only [UInt8.reduceToNat]; omega)⟩

theorem leads_one_iff {a : UInt8} : Leads [a] ↔ 0xC2 ≤ a.toNat ∧ a.toNat ≤ 0xF4 := by
  constructor
  · rintro ⟨c, tail, hc, ht⟩
    match tail with
    | [b] =>
      have ha := (encodes_two_iff.1 hc).1
      omega
    | b :: d :: tail =>
      have ha := (leads_two_iff.1 ⟨c, d :: tail, hc, by simp⟩).1
      omega
  · intro ha
    by_cases he : a.toNat < 0xE0
    · have hnum : ∃ c : Char, c.toNat = (a.toNat - 0xC0) * 0x40 + tailBits 0x80 := by
        apply exists_char
        simp only [tailBits_eq, UInt8.reduceToNat]
        omega
      obtain ⟨c, hc⟩ := hnum
      exact ⟨c, [0x80], encodes_two_iff.2 ⟨⟨ha.1, he⟩, rfl, hc⟩, by simp⟩
    · obtain ⟨b, hb⟩ := exists_isSecond a
      have hlong : Leads ([a] ++ [b]) := leads_two_iff.2 ⟨by omega, hb⟩
      exact hlong.of_append

/-! ### One byte -/

theorem completed_toNat (c : Char) : completed c.toNat = .completes c := dif_pos c.valid

theorem completed_eq_iff {n : Nat} {c : Char} : completed n = .completes c ↔ c.toNat = n := by
  refine ⟨fun h => ?_, fun h => h ▸ completed_toNat c⟩
  by_cases hn : n.isValidChar
  · rw [completed, dif_pos hn] at h
    cases h
    rfl
  · rw [completed, dif_neg hn] at h
    cases h

theorem completed_ne_extends (n : Nat) : completed n ≠ .extends := by
  intro h
  by_cases hn : n.isValidChar
  · rw [completed, dif_pos hn] at h
    cases h
  · rw [completed, dif_neg hn] at h
    cases h

/-- The decoder waits after a byte exactly if its bytes still lead to a character. -/
theorem utf8Step_extends_iff {pending : Bytes} (h : Leads pending) (b : UInt8) :
    utf8Step pending b = .extends ↔ Leads (pending ++ [b]) := by
  match pending with
  | [] =>
    rw [List.nil_append, leads_one_iff, utf8Step]
    split
    · next hb =>
      have hb : b.toNat < 0x80 := hb
      exact iff_of_false (completed_ne_extends _) (by omega)
    · simp [UInt8.le_iff_toNat_le]
  | [a] =>
    have ha := leads_one_iff.1 h
    rw [List.singleton_append, leads_two_iff, utf8Step]
    by_cases hb : isSecond a b
    · rw [hb, if_neg (by simp)]
      split
      · next he =>
        have he : a.toNat < 0xE0 := he
        exact iff_of_false (completed_ne_extends _) (by omega)
      · next he =>
        have he : ¬ a.toNat < 0xE0 := he
        exact iff_of_true rfl ⟨by omega, rfl⟩
    · simp [hb]
  | [a, a₂] =>
    obtain ⟨ha, ha₂⟩ := leads_two_iff.1 h
    rw [List.cons_append, List.singleton_append, leads_three_iff, utf8Step]
    by_cases hb : isTail b
    · rw [hb, if_neg (by simp)]
      split
      · next hf =>
        have hf : a.toNat < 0xF0 := hf
        exact iff_of_false (completed_ne_extends _) (by omega)
      · next hf =>
        have hf : ¬ a.toNat < 0xF0 := hf
        exact iff_of_true rfl ⟨by omega, ha₂, rfl⟩
    · simp [hb]
  | [a, a₂, a₃] =>
    refine iff_of_false ?_ fun hl => absurd hl.length_lt (by simp)
    rw [utf8Step]
    split
    · nofun
    · exact completed_ne_extends _
  | _ :: _ :: _ :: _ :: _ => exact absurd h.length_lt (by simp)

/-- A byte completes a character exactly if it is the last one of those that spell it. -/
theorem utf8Step_completes_iff {pending : Bytes} (h : Leads pending) {b : UInt8} {c : Char} :
    utf8Step pending b = .completes c ↔ utf8EncodeChar c = pending ++ [b] := by
  match pending with
  | [] =>
    rw [List.nil_append, encodes_one_iff, utf8Step]
    split
    · next hb => rw [completed_eq_iff, and_iff_right (show b.toNat < 0x80 from hb)]
    · next hb =>
      have hb : ¬ b.toNat < 0x80 := hb
      split <;> simp [hb]
  | [a] =>
    obtain ⟨ha, -⟩ := leads_one_iff.1 h
    rw [List.singleton_append, encodes_two_iff, utf8Step]
    by_cases he : a < 0xE0
    · rw [isSecond_eq_isTail he]
      by_cases hb : isTail b
      · rw [hb, if_neg (by simp), if_pos he, completed_eq_iff]
        exact ⟨fun hc => ⟨⟨ha, he⟩, rfl, hc⟩, fun hc => hc.2.2⟩
      · simp [hb]
    · rw [if_neg he]
      have hno : ¬ a.toNat < 0xE0 := he
      split <;> simp [hno]
  | [a, a₂] =>
    obtain ⟨ha, ha₂⟩ := leads_two_iff.1 h
    rw [List.cons_append, List.singleton_append, encodes_three_iff, utf8Step]
    by_cases hb : isTail b
    · by_cases hf : a < 0xF0
      · rw [hb, if_neg (by simp), if_pos hf, completed_eq_iff]
        exact ⟨fun hc => ⟨⟨ha.1, hf⟩, ha₂, rfl, hc⟩, fun hc => hc.2.2.2⟩
      · have hno : ¬ a.toNat < 0xF0 := hf
        simp [hb, hf, hno]
    · simp [hb]
  | [a, a₂, a₃] =>
    obtain ⟨ha, ha₂, ha₃⟩ := leads_three_iff.1 h
    simp only [List.cons_append, List.nil_append, encodes_four_iff, utf8Step]
    by_cases hb : isTail b
    · rw [hb, if_neg (by simp), completed_eq_iff]
      exact ⟨fun hc => ⟨ha, ha₂, ha₃, rfl, hc⟩, fun hc => hc.2.2.2.2⟩
    · simp [hb]
  | _ :: _ :: _ :: _ :: _ => exact absurd h.length_lt (by simp)

/-! ### Bytes one after another -/

/-- A decoder of UTF-8 with the bytes of a character that is not complete. -/
def decoder (pending : Bytes) (atStart : Bool) : Decoder := ⟨.utf8, pending, atStart, false⟩

theorem readByte_decoder (pending : Bytes) (atStart : Bool) (b : UInt8) :
    (decoder pending atStart).readByte b =
      match utf8Step pending b with
      | .extends => .ok (decoder (pending ++ [b]) atStart, [])
      | .completes c => .ok (decoder [] false, [c])
      | .fails => .error .malformed := by
  cases atStart <;> rfl

/-- While the bytes lead to a character nothing is answered. -/
theorem readBytes_of_leads (pending : Bytes) {more : Bytes} (h : Leads (pending ++ more))
    (atStart : Bool) :
    (decoder pending atStart).readBytes more = .ok (decoder (pending ++ more) atStart, []) := by
  induction more generalizing pending with
  | nil => rw [readBytes, List.append_nil]
  | cons b more ih =>
    have hb : Leads (pending ++ [b] ++ more) := by rwa [List.append_assoc]
    rw [readBytes, readByte_decoder, (utf8Step_extends_iff h.of_append b).2 hb.of_append]
    simp only [ih _ hb, List.append_assoc, List.singleton_append, List.nil_append]

theorem readBytes_append_of_ok {d d' : Decoder} {a : Bytes} {cs : List Char}
    (h : d.readBytes a = .ok (d', cs)) (b : Bytes) :
    d.readBytes (a ++ b) = (d'.readBytes b).map fun r => (r.1, cs ++ r.2) := by
  induction a generalizing d cs with
  | nil =>
    cases h
    rw [List.nil_append]
    cases d'.readBytes b <;> rfl
  | cons x a ih =>
    rw [readBytes] at h
    rw [List.cons_append, readBytes]
    cases hx : d.readByte x with
    | error e => simp [hx] at h
    | ok r =>
      simp only [hx] at h ⊢
      cases ha : r.1.readBytes a with
      | error e => simp [ha] at h
      | ok s =>
        simp only [ha, Except.ok.injEq, Prod.mk.injEq] at h
        obtain ⟨rfl, rfl⟩ := h
        rw [ih ha]
        cases s.1.readBytes b <;> simp [Except.map]

theorem readBytes_append_of_error {d : Decoder} {a : Bytes} {e : DecodeFault}
    (h : d.readBytes a = .error e) (b : Bytes) : d.readBytes (a ++ b) = .error e := by
  induction a generalizing d with
  | nil => cases h
  | cons x a ih =>
    rw [readBytes] at h
    rw [List.cons_append, readBytes]
    cases hx : d.readByte x with
    | error e' => simpa [hx] using h
    | ok r =>
      simp only [hx] at h ⊢
      cases ha : r.1.readBytes a with
      | error e' =>
        simp only [ha] at h
        rw [ih (ha.trans h)]
      | ok s => simp [ha] at h

theorem readBytes_char (c : Char) (atStart : Bool) :
    (decoder [] atStart).readBytes (utf8EncodeChar c) = .ok (decoder [] false, [c]) := by
  obtain ⟨front, b, hc⟩ : ∃ front b, utf8EncodeChar c = front ++ [b] :=
    ⟨_, _, (List.dropLast_concat_getLast String.utf8EncodeChar_ne_nil).symm⟩
  have hl : Leads front := ⟨c, [b], hc, by simp⟩
  rw [hc, readBytes_append_of_ok (readBytes_of_leads [] hl atStart), List.nil_append,
    readBytes, readByte_decoder, (utf8Step_completes_iff hl).2 hc]
  rfl

/-- Every character is read from its bytes. -/
theorem readBytes_encode (cs : List Char) {rest : Bytes} (h : Leads rest) (atStart : Bool) :
    (decoder [] atStart).readBytes (encode cs ++ rest) =
      .ok (decoder rest (atStart && cs.isEmpty), cs) := by
  induction cs generalizing atStart with
  | nil =>
    rw [List.isEmpty_nil, Bool.and_true]
    exact readBytes_of_leads [] h atStart
  | cons c cs ih =>
    rw [encode, List.flatMap_cons, List.append_assoc, readBytes_append_of_ok (readBytes_char c _),
      ← encode, ih]
    simp [Except.map]

theorem eq_malformed_of_readBytes {pending bytes : Bytes} {atStart : Bool} {e : DecodeFault}
    (h : (decoder pending atStart).readBytes bytes = .error e) : e = .malformed := by
  induction bytes generalizing pending atStart with
  | nil => cases h
  | cons b bytes ih =>
    rw [readBytes, readByte_decoder] at h
    match hb : utf8Step pending b with
    | .extends =>
      simp only [hb] at h
      cases hr : (decoder (pending ++ [b]) atStart).readBytes bytes with
      | error e' => exact ih (hr.trans (by simpa [hr] using h))
      | ok r => simp [hr] at h
    | .completes c =>
      simp only [hb] at h
      cases hr : (decoder [] false).readBytes bytes with
      | error e' => exact ih (hr.trans (by simpa [hr] using h))
      | ok r => simp [hr] at h
    | .fails =>
      simp only [hb] at h
      exact (Except.error.inj h).symm

/-- What was read are the characters of the bytes. -/
theorem spells_of_readBytes {pending bytes : Bytes} {atStart : Bool} {d : Decoder} {cs : List Char}
    (hp : Leads pending) (h : (decoder pending atStart).readBytes bytes = .ok (d, cs)) :
    d = decoder d.pending (atStart && cs.isEmpty) ∧ Spells (pending ++ bytes) cs d.pending := by
  induction bytes generalizing pending atStart cs with
  | nil =>
    cases h
    simp [decoder, Spells, encode, hp]
  | cons b bytes ih =>
    rw [readBytes, readByte_decoder] at h
    match hb : utf8Step pending b with
    | .extends =>
      have hl := (utf8Step_extends_iff hp b).1 hb
      simp only [hb] at h
      cases hr : (decoder (pending ++ [b]) atStart).readBytes bytes with
      | error e => simp [hr] at h
      | ok r =>
        simp only [hr, List.nil_append, Except.ok.injEq, Prod.mk.injEq] at h
        obtain ⟨rfl, rfl⟩ := h
        simpa using ih hl hr
    | .completes c =>
      have hc := (utf8Step_completes_iff hp).1 hb
      simp only [hb] at h
      cases hr : (decoder [] false).readBytes bytes with
      | error e => simp [hr] at h
      | ok r =>
        simp only [hr, Except.ok.injEq, Prod.mk.injEq] at h
        obtain ⟨rfl, rfl⟩ := h
        obtain ⟨hd, hs, hl⟩ := ih leads_nil hr
        refine ⟨by simpa using hd, ?_, hl⟩
        rw [← List.singleton_append, ← List.append_assoc, ← hc]
        simpa [encode] using hs
    | .fails => simp [hb] at h

/-- The decoder reads bytes exactly if they spell characters, and it answers with these. -/
theorem readBytes_eq_ok_iff {bytes : Bytes} {d : Decoder} {cs : List Char} :
    (Decoder.start .utf8).readBytes bytes = .ok (d, cs) ↔
      d = decoder d.pending cs.isEmpty ∧ Spells bytes cs d.pending := by
  constructor
  · intro h
    simpa using @spells_of_readBytes [] bytes true d cs leads_nil h
  · rintro ⟨hd, rfl, hl⟩
    rw [hd]
    exact readBytes_encode cs hl true

end SchemaGate.Utf8
