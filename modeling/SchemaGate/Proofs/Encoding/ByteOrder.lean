import SchemaGate.Proofs.Encoding.Utf8

/-! Encodings that may refuse what they read.

    Bytes that do not decode are a fault of the bytes, with two exceptions. One encoding decodes nothing,
    and the encodings without a given byte order refuse text in front of which the byte order mark is
    missing (`Unmarked`). They notice it once the text is decoded as if it were little-endian, so bytes
    that do not decode at all are a fault of the bytes here, too. A decoder for which neither can happen
    stays so (`Settled`); one that reads from the start comes to know the order, or has noticed that the
    mark is missing, or has read no character yet (`cases_of_readBytes`). -/

namespace SchemaGate.Decoder

/-- The encoding that bytes without a byte order mark are read in. -/
def unmarkedAs : Encoding → Encoding
  | .utf16 none => .utf16 (some .little)
  | .utf32 none => .utf32 (some .little)
  | e => e

/-- The bytes begin with a byte order mark that the encoding looks for. -/
def StartsWithMark (e : Encoding) (bytes : Bytes) : Prop :=
  ∃ mark rest, bytes = mark ++ rest ∧ (mark? e mark).isSome

/-- The bytes begin with text, but not with the byte order mark that it needs. -/
def Unmarked (e : Encoding) (bytes : Bytes) : Prop :=
  needsMark e = true ∧ ¬ StartsWithMark e bytes ∧
    ∃ d c cs, (Decoder.start (unmarkedAs e)).readBytes bytes = .ok (d, c :: cs)

/-- The decoder knows how to read what comes. -/
structure Settled (d : Decoder) : Prop where
  unmarked : d.unmarked = false
  needsMark : needsMark d.encoding = false
  encoding : d.encoding ≠ .undefined

/-! ### Settled decoders -/

theorem fault_of_ne {e : Encoding} (h : e ≠ .undefined) : fault e = .malformed := by
  cases e <;> first | rfl | exact absurd rfl h

/-- What bytes preserve one by one they preserve together, unless one is malformed. -/
theorem readBytes_preserve {P : Decoder → Prop}
    (hbyte : ∀ d b, P d →
      (∃ d' cs, d.readByte b = .ok (d', cs) ∧ P d') ∨ d.readByte b = .error .malformed)
    {d : Decoder} (h : P d) (bytes : Bytes) :
    (∃ d' cs, d.readBytes bytes = .ok (d', cs) ∧ P d') ∨ d.readBytes bytes = .error .malformed := by
  induction bytes generalizing d with
  | nil => exact .inl ⟨d, [], rfl, h⟩
  | cons b bytes ih =>
    rw [Decoder.readBytes]
    obtain ⟨d₁, cs, hb, h₁⟩ | hb := hbyte d b h
    · obtain ⟨d', more, hbytes, h'⟩ | hbytes := ih h₁
      · exact .inl ⟨d', cs ++ more, by simp only [hb, hbytes], h'⟩
      · exact .inr (by simp only [hb, hbytes])
    · exact .inr (by simp only [hb])

/-- A byte order mark tells the order of what follows it. -/
theorem settled_of_mark? {e e' : Encoding} {bytes : Bytes} (h : mark? e bytes = some e') :
    (⟨e', [], false, false⟩ : Decoder).Settled := by
  unfold mark? at h
  split at h <;> cases h <;> exact ⟨rfl, rfl, nofun⟩

/-- A byte completes the byte order mark, or it goes into a character. -/
theorem readByte_cases (d : Decoder) (b : UInt8) :
    (∃ e, d.readByte b = .ok (⟨e, [], false, false⟩, []) ∧
        (⟨e, [], false, false⟩ : Decoder).Settled) ∨
      d.readByte b = match byteStep d.encoding d.pending b with
        | .extends => .ok ({ d with pending := d.pending ++ [b] }, [])
        | .completes c => .ok (⟨d.encoding, [], false, needsMark d.encoding⟩, [c])
        | .fails => .error (fault d.encoding) := by
  rw [readByte]
  split
  · next e hmark =>
    have hmark : mark? d.encoding (d.pending ++ [b]) = some e := by
      split at hmark
      · exact hmark
      · cases hmark
    exact .inl ⟨e, rfl, settled_of_mark? hmark⟩
  · exact .inr rfl

/-- A decoder never comes to decode nothing at all. -/
theorem readBytes_of_ne_undefined {d : Decoder} (h : d.encoding ≠ .undefined) (bytes : Bytes) :
    (∃ d' cs, d.readBytes bytes = .ok (d', cs) ∧ d'.encoding ≠ .undefined) ∨
      d.readBytes bytes = .error .malformed := by
  refine readBytes_preserve (fun d b h => ?_) h bytes
  obtain ⟨e, hb, hsettled⟩ | hb := d.readByte_cases b
  · exact .inl ⟨_, _, hb, hsettled.encoding⟩
  · rw [hb]
    match byteStep d.encoding d.pending b with
    | .extends | .completes c => exact .inl ⟨_, _, rfl, h⟩
    | .fails => exact .inr (congrArg _ (fault_of_ne h))

namespace Settled

variable {d d' : Decoder}

theorem start {e : Encoding} (he : e ≠ .undefined) (h : Decoder.needsMark e = false) :
    (Decoder.start e).Settled := ⟨rfl, h, he⟩

/-- A settled decoder stays settled, or the bytes are malformed. -/
theorem readBytes (h : d.Settled) (bytes : Bytes) :
    (∃ d' cs, d.readBytes bytes = .ok (d', cs) ∧ d'.Settled) ∨
      d.readBytes bytes = .error .malformed := by
  refine readBytes_preserve (fun d b h => ?_) h bytes
  obtain ⟨e, hb, hsettled⟩ | hb := d.readByte_cases b
  · exact .inl ⟨_, _, hb, hsettled⟩
  · rw [hb]
    match byteStep d.encoding d.pending b with
    | .extends => exact .inl ⟨_, _, rfl, h.unmarked, h.needsMark, h.encoding⟩
    | .completes c => exact .inl ⟨_, _, rfl, h.needsMark, h.needsMark, h.encoding⟩
    | .fails => exact .inr (congrArg _ (fault_of_ne h.encoding))

theorem of_readBytes (h : d.Settled) {bytes : Bytes} {cs : List Char}
    (hread : d.readBytes bytes = .ok (d', cs)) : d'.Settled := by
  obtain ⟨d₁, cs₁, hbytes, h₁⟩ | hbytes := h.readBytes bytes
  · rw [hbytes] at hread
    cases hread
    exact h₁
  · rw [hbytes] at hread
    cases hread

/-- A settled decoder reads on and stays settled, or the piece is malformed. -/
theorem readPiece (h : d.Settled) (piece : Bytes) :
    (∃ d' cs, d.readPiece piece = .ok (d', cs) ∧ d'.Settled) ∨
      d.readPiece piece = .error .malformed := by
  rw [Decoder.readPiece]
  obtain ⟨d', cs, hbytes, h'⟩ | hbytes := h.readBytes piece
  · exact .inl ⟨d', cs, by simp [hbytes, h'.unmarked], h'⟩
  · exact .inr (by simp only [hbytes])

end Settled

/-- Only the encoding that decodes nothing refuses the end of the bytes. -/
theorem finish_ne_refused {d : Decoder} (h : d.encoding ≠ .undefined) :
    d.finish ≠ .error .refused := by
  rw [finish]
  split
  · next he => exact absurd he h
  · split <;> nofun
  · split <;> nofun

/-! ### Without a byte order mark -/

theorem needsMark_iff {e : Encoding} : needsMark e = true ↔ e = .utf16 none ∨ e = .utf32 none := by
  rcases e with _ | _ | _ | _ | _ | ⟨_ | _⟩ | ⟨_ | _⟩ | _ <;> simp [needsMark]

/-- What a byte does where it completes no byte order mark. -/
theorem readByte_of_not_mark {e : Encoding} {pending : Bytes} {atStart : Bool} {b : UInt8}
    (h : atStart = true → mark? e (pending ++ [b]) = none) (unmarked : Bool) :
    (Decoder.mk e pending atStart unmarked).readByte b =
      match byteStep e pending b with
      | .extends => .ok (⟨e, pending ++ [b], atStart, unmarked⟩, [])
      | .completes c => .ok (⟨e, [], false, needsMark e⟩, [c])
      | .fails => .error (fault e) := by
  cases atStart with
  | false => rfl
  | true => cases hstep : byteStep e pending b <;> simp only [readByte, h rfl, if_true, hstep]

section NeedsMark

variable {e : Encoding} (he : needsMark e = true)

include he

theorem ne_undefined : e ≠ .undefined := by
  rintro rfl
  cases he

theorem readByte_unmarkedAs (pending : Bytes) (atStart : Bool) (b : UInt8) :
    (Decoder.mk (unmarkedAs e) pending atStart false).readByte b =
      match byteStep e pending b with
      | .extends => .ok (⟨unmarkedAs e, pending ++ [b], atStart, false⟩, [])
      | .completes c => .ok (⟨unmarkedAs e, [], false, false⟩, [c])
      | .fails => .error .malformed := by
  rw [readByte_of_not_mark]
  · obtain rfl | rfl := needsMark_iff.1 he <;> rfl
  · obtain rfl | rfl := needsMark_iff.1 he <;> simp [unmarkedAs, mark?]

/-- As long as no mark turns up, the bytes are read as they are in the encoding they are taken for.
With the first character the decoder notices that the mark is missing. -/
theorem readBytes_unmarkedAs {pending bytes : Bytes} {atStart unmarked : Bool}
    (hmark : atStart = true → ¬ StartsWithMark e (pending ++ bytes)) :
    (Decoder.mk e pending atStart unmarked).readBytes bytes =
      ((Decoder.mk (unmarkedAs e) pending atStart false).readBytes bytes).map fun r =>
        (⟨e, r.1.pending, r.1.atStart, unmarked || !r.2.isEmpty⟩, r.2) := by
  induction bytes generalizing pending atStart unmarked with
  | nil => simp [readBytes, Except.map]
  | cons b bytes ih =>
    have hnone : atStart = true → mark? e (pending ++ [b]) = none := by
      intro hs
      refine Option.eq_none_iff_forall_not_mem.2 fun e' hm => hmark hs ?_
      exact ⟨pending ++ [b], bytes, by simp, by rw [hm]; rfl⟩
    rw [readBytes, readBytes, readByte_of_not_mark hnone, readByte_unmarkedAs he]
    rcases byteStep e pending b with _ | c | _
    · -- the byte extends a character
      have hmore : atStart = true → ¬ StartsWithMark e (pending ++ [b] ++ bytes) := by simpa using hmark
      simp only [ih hmore]
      cases (Decoder.mk (unmarkedAs e) (pending ++ [b]) atStart false).readBytes bytes <;> rfl
    · -- it completes the character `c`
      simp only [he, @ih [] false true (by simp)]
      cases (Decoder.mk (unmarkedAs e) [] false false).readBytes bytes <;> simp [Except.map]
    · -- it is refused
      exact congrArg _ (fault_of_ne (ne_undefined he))

theorem readBytes_start {bytes : Bytes} (hmark : ¬ StartsWithMark e bytes) :
    (Decoder.start e).readBytes bytes =
      ((Decoder.start (unmarkedAs e)).readBytes bytes).map fun r =>
        (⟨e, r.1.pending, r.1.atStart, !r.2.isEmpty⟩, r.2) :=
  readBytes_unmarkedAs he fun _ => hmark

omit he in
/-- Behind its byte order mark a document is read in the order that it tells. -/
theorem readBytes_mark {mark : Bytes} {e' : Encoding} (h : mark? e mark = some e') (rest : Bytes) :
    (Decoder.start e).readBytes (mark ++ rest) = (Decoder.mk e' [] false false).readBytes rest := by
  have hstart : (Decoder.start e).readBytes mark = .ok (⟨e', [], false, false⟩, []) := by
    unfold mark? at h
    split at h <;> cases h <;> rfl
  rw [Utf8.readBytes_append_of_ok hstart]
  cases (Decoder.mk e' [] false false).readBytes rest <;> rfl

omit he in
/-- Behind its byte order mark a decoder knows the order. -/
theorem settled_of_startsWithMark {bytes : Bytes} {d : Decoder} {cs : List Char}
    (hmark : StartsWithMark e bytes) (h : (Decoder.start e).readBytes bytes = .ok (d, cs)) :
    d.Settled := by
  obtain ⟨mark, rest, rfl, hm⟩ := hmark
  obtain ⟨e', hm⟩ := Option.isSome_iff_exists.1 hm
  rw [readBytes_mark hm] at h
  exact (settled_of_mark? hm).of_readBytes h

end NeedsMark

/-- Text without the mark that it needs decodes, as far as it goes, and the decoder notices. -/
theorem exists_of_unmarked {e : Encoding} {bytes : Bytes} (h : Unmarked e bytes) :
    ∃ d cs, (Decoder.start e).readBytes bytes = .ok (d, cs) ∧ d.unmarked = true := by
  obtain ⟨hneeds, hmark, d, c, cs, hread⟩ := h
  exact ⟨_, _, by rw [readBytes_start hneeds hmark, hread]; rfl, rfl⟩

section Start

variable {e : Encoding} (he : e ≠ .undefined)

include he

/-- What a decoder has come to: it knows the order, or the bytes do not begin with the mark that it
needs and it has noticed so exactly if it has read a character. -/
theorem cases_of_readBytes {bytes : Bytes} {d : Decoder} {cs : List Char}
    (h : (Decoder.start e).readBytes bytes = .ok (d, cs)) :
    (d.Settled ∧ ¬ Unmarked e bytes) ∨ (cs ≠ [] ∧ d.unmarked = true ∧ Unmarked e bytes) ∨
      (cs = [] ∧ d.unmarked = false ∧ ¬ Unmarked e bytes) := by
  by_cases hmark : StartsWithMark e bytes
  · exact .inl ⟨settled_of_startsWithMark hmark h, fun hu => hu.2.1 hmark⟩
  cases hneeds : needsMark e with
  | false =>
    refine .inl ⟨(Settled.start he hneeds).of_readBytes h, fun hu => ?_⟩
    simp [Unmarked, hneeds] at hu
  | true =>
    rw [readBytes_start hneeds hmark] at h
    cases hread : (Decoder.start (unmarkedAs e)).readBytes bytes with
    | error f => simp [hread, Except.map] at h
    | ok r =>
      obtain ⟨d', cs'⟩ := r
      simp only [hread, Except.map, Except.ok.injEq, Prod.mk.injEq] at h
      obtain ⟨rfl, rfl⟩ := h
      cases cs' <;> simp [Unmarked, hneeds, hmark, hread]

omit he in
/-- Behind what a settled decoder has read no mark is found missing. -/
theorem not_unmarked_append {bytes : Bytes} {d : Decoder} {cs : List Char}
    (h : (Decoder.start e).readBytes bytes = .ok (d, cs)) (hd : d.Settled) (more : Bytes) :
    ¬ Unmarked e (bytes ++ more) := by
  intro hu
  obtain ⟨d', cs', hread, hunmarked⟩ := exists_of_unmarked hu
  rw [Utf8.readBytes_append_of_ok h] at hread
  obtain ⟨d₁, cs₁, hmore, hsettled⟩ | hmore := hd.readBytes more
  · rw [hmore] at hread
    cases hread
    rw [hsettled.unmarked] at hunmarked
    cases hunmarked
  · rw [hmore] at hread
    cases hread

end Start

end SchemaGate.Decoder
