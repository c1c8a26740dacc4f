import SchemaGate.Proofs.Detection.Closing
import SchemaGate.Proofs.Detection.Refusal
import SchemaGate.Proofs.Encoding.ByteOrder

/-! Detection on bytes that are no text.

    Detection is meant to leave the mode open where bytes do not decode, and never to fail on them. That
    covers the faults of bytes. It does not cover what an encoding refuses: all bytes, if it decodes
    nothing, or text without the byte order mark that it needs. The refusal comes with the piece in which
    the text begins, for behind it the order is known (`Reading.Reached.firstText_cases`). And a name may
    be that of an encoding, but of none of text: this is noticed only when a stream is read. So these are
    all the ways to fail, and all of them happen (`detectBytes_of_lookup`). -/

namespace SchemaGate.Detection

open Decoder

/-- Detection fails on the bytes: the encoding decodes nothing, or the text that the first pieces begin
with has not the byte order mark that it needs, or reading comes to bytes that a codec refuses. -/
def Refuses (codecs : Codecs) (bytes : Bytes) : TextEncoding → Prop
  | .known e => e = .undefined ∨ ∃ k, Unmarked e (bytes.take (k * pieceSize))
  | .foreign name => ComesToRefusal (codecs name).start (cutPieces bytes)

/-! ### Decoders at work -/

namespace Reading

variable {r r' : Reading Decoder} {e : Encoding}

/-- A piece is read as its bytes are decoded. -/
theorem readPiece_cases (r : Reading Decoder) (piece : Bytes) :
    (∃ r' cs, r.readPiece piece = .ok r' ∧ r.decoder.readPiece piece = .ok (r'.decoder, cs)) ∨
      ∃ f, r.readPiece piece = .error f ∧ r.decoder.readPiece piece = .error f := by
  rw [readPiece, readPiece_decoder]
  cases r.decoder.readPiece piece with
  | error f => exact .inr ⟨f, rfl, rfl⟩
  | ok d => exact .inl ⟨_, d.2, rfl, rfl⟩

theorem finish_of_readEnd_decoder {f : DecodeFault} (h : r.readEnd = .error f) :
    r.decoder.finish = .error f := by
  have hend := finish_of_readEnd h
  rw [readEnd_decoder] at hend
  cases hf : r.decoder.finish with
  | error g => simpa [hf, Except.map] using hend
  | ok => simp [hf, Except.map] at hend

theorem decoder_of_readEnd (h : r.readEnd = .ok (some r')) : r'.decoder = r.decoder := by
  obtain ⟨d, text, hend, hr'⟩ := readEnd_eq_some h
  have hd : d = r.decoder := by
    rw [readEnd_decoder] at hend
    cases hf : r.decoder.finish <;> simp_all [Except.map]
  subst hd
  rcases hr' with ⟨more, rfl⟩ | rfl
  · rfl
  · rw [readUnfinished]
    split <;> rfl

/-- The decoder stays settled, whatever is read. -/
theorem settled_of_readsTo {pieces left : List Bytes} (h : ReadsTo r pieces r' left)
    (hr : r.decoder.Settled) : r'.decoder.Settled := by
  refine h.preserve (P := fun r => r.decoder.Settled) hr (fun r r₁ piece hr hread => ?_) ?_
  · obtain ⟨r₂, cs, hok, hdecoder⟩ | ⟨f, herror, -⟩ := r.readPiece_cases piece
    · rw [hok] at hread
      cases hread
      obtain ⟨d, cs', hpiece, hsettled⟩ | hpiece := hr.readPiece piece
      · rw [hpiece] at hdecoder
        cases hdecoder
        exact hsettled
      · rw [hpiece] at hdecoder
        cases hdecoder
    · rw [herror] at hread
      cases hread
  · intro r r₁ hr hread
    rwa [decoder_of_readEnd hread]

/-- Nothing is refused once the decoder is settled. -/
theorem readPieces_ne_refused (h : r.decoder.Settled) (ending : StreamEnd) (pieces : List Bytes) :
    readPieces r ending pieces ≠ .error (.fault .refused) := by
  intro hrefused
  obtain ⟨r', left, hreads, hhalts⟩ := exists_readsTo r ending pieces
  have hsettled : r'.decoder.Settled := settled_of_readsTo hreads h
  rw [hrefused] at hhalts
  cases hhalts with
  | @undecodable piece _ _ _ _ read =>
    obtain ⟨r₁, -, hok, -⟩ | ⟨f, herror, hdecoder⟩ := r'.readPiece_cases piece
    · rw [hok] at read
      cases read
    · rw [herror] at read
      cases read
      obtain ⟨d, cs, hpiece, -⟩ | hpiece := hsettled.readPiece piece <;> rw [hpiece] at hdecoder <;>
        cases hdecoder
  | unfinished _ _ read => exact finish_ne_refused hsettled.encoding (finish_of_readEnd_decoder read)

/-- Nothing is scanned before a character is decoded. -/
theorem Reached.verdict_eq_none {bytes : Bytes} (h : r.Reached e bytes []) :
    r.scan.verdict = none := by
  rw [h.hasRead.scan]
  rfl

/-! ### Refusals -/

theorem readPieces_cons {δ : Type} [PieceDecoder δ] {r : Reading δ} {piece : Bytes}
    (hv : r.scan.verdict = none) (hne : piece ≠ []) (ending : StreamEnd) (pieces : List Bytes) :
    readPieces r ending (piece :: pieces) =
      match r.readPiece piece with
      | .error f => .error (.fault f)
      | .ok r => readPieces r ending pieces := by
  cases hread : r.readPiece piece <;>
    simp only [readPieces, hv, List.isEmpty_eq_false_iff.2 hne, Bool.false_eq_true, if_false, hread]

theorem Reached.ne_undefined (he : e ≠ .undefined) {bytes : Bytes} {cs : List Char}
    (h : r.Reached e bytes cs) : r.decoder.encoding ≠ .undefined := by
  obtain ⟨d, cs', hd, hne⟩ | hd := readBytes_of_ne_undefined (d := Decoder.start e) he bytes <;>
    rw [h.decoded] at hd <;> cases hd
  exact hne

/-- What becomes of a piece as long as no character is decoded: it is malformed; or the text begins in
it without the mark that it needs, and it is refused; or no character is decoded still; or the decoder
has come to know the order. -/
theorem Reached.firstText_cases (he : e ≠ .undefined) {bytes : Bytes} (h : r.Reached e bytes [])
    (piece : Bytes) :
    (r.readPiece piece = .error .malformed ∧ ∀ more, ¬ Unmarked e (bytes ++ piece ++ more)) ∨
      (r.readPiece piece = .error .refused ∧ Unmarked e (bytes ++ piece)) ∨
      (∃ r₁, r.readPiece piece = .ok r₁ ∧ r₁.Reached e (bytes ++ piece) [] ∧
        ¬ Unmarked e (bytes ++ piece)) ∨
      ∃ r₁, r.readPiece piece = .ok r₁ ∧ r₁.decoder.Settled ∧
        ∀ more, ¬ Unmarked e (bytes ++ piece ++ more) := by
  obtain ⟨d, cs, hbytes, -⟩ | hbytes := readBytes_of_ne_undefined (h.ne_undefined he) piece
  · have hread : (Decoder.start e).readBytes (bytes ++ piece) = .ok (d, cs) := by
      rw [Utf8.readBytes_append_of_ok h.decoded, hbytes]
      rfl
    -- unless the decoder notices a missing mark, the reading goes on from behind the piece
    have hnext : d.unmarked = false → ∃ r₁, r.readPiece piece = .ok r₁ ∧ r₁.decoder = d ∧
        r₁.Reached e (bytes ++ piece) cs := by
      intro hunmarked
      have hpiece : r.decoder.readPiece piece = .ok (d, cs) := by
        rw [Decoder.readPiece, hbytes]
        simp [hunmarked]
      obtain ⟨r₁, hok, hreached⟩ := h.readPiece hpiece
      have hdecoded := hreached.decoded
      rw [hread] at hdecoded
      cases hdecoded
      exact ⟨r₁, hok, rfl, hreached⟩
    obtain ⟨hsettled, -⟩ | ⟨-, hunmarked, hu⟩ | ⟨rfl, hunmarked, hnot⟩ := cases_of_readBytes he hread
    · obtain ⟨r₁, hok, rfl, -⟩ := hnext hsettled.unmarked
      exact .inr (.inr (.inr ⟨r₁, hok, hsettled, not_unmarked_append hread hsettled⟩))
    · have hpiece : r.decoder.readPiece piece = .error .refused := by
        rw [Decoder.readPiece, hbytes]
        simp [hunmarked]
      exact .inr (.inl ⟨readPiece_of_error (readPiece_decoder_of_error hpiece), hu⟩)
    · obtain ⟨r₁, hok, -, hreached⟩ := hnext hunmarked
      exact .inr (.inr (.inl ⟨r₁, hok, hreached, hnot⟩))
  · have hpiece : r.decoder.readPiece piece = .error .malformed := by rw [Decoder.readPiece, hbytes]
    refine .inl ⟨readPiece_of_error (readPiece_decoder_of_error hpiece), fun more hu => ?_⟩
    obtain ⟨d, cs, hd, -⟩ := exists_of_unmarked hu
    rw [List.append_assoc, Utf8.readBytes_append_of_ok h.decoded,
      Utf8.readBytes_append_of_error hbytes] at hd
    cases hd

/-- As long as no character is decoded, reading is refused exactly if the text turns out to begin
without the byte order mark that it needs. -/
theorem Reached.readPieces_refused_iff (he : e ≠ .undefined) {bytes : Bytes}
    (h : r.Reached e bytes []) (hread : ¬ Unmarked e bytes) (ending : StreamEnd)
    {pieces : List Bytes} (hne : ∀ p ∈ pieces, p ≠ []) :
    readPieces r ending pieces = .error (.fault .refused) ↔
      ∃ k, Unmarked e (bytes ++ (pieces.take k).flatten) := by
  induction pieces generalizing r bytes with
  | nil =>
    refine iff_of_false (fun hrefused => ?_) (by simpa using hread)
    cases ending with
    | failure message => simp [readPieces, h.verdict_eq_none] at hrefused
    | endOfFile =>
      simp only [readPieces, h.verdict_eq_none] at hrefused
      split at hrefused
      · next f hend =>
        cases hrefused
        exact finish_ne_refused (h.ne_undefined he) (finish_of_readEnd_decoder hend)
      · cases hrefused
      · cases hrefused
  | cons piece pieces ih =>
    have hshift : (∃ k, Unmarked e (bytes ++ ((piece :: pieces).take k).flatten)) ↔
        ∃ k, Unmarked e (bytes ++ piece ++ (pieces.take k).flatten) := by
      constructor
      · rintro ⟨k, hk⟩
        cases k with
        | zero => exact absurd (by simpa using hk) hread
        | succ k => exact ⟨k, by simpa using hk⟩
      · rintro ⟨k, hk⟩
        exact ⟨k + 1, by simpa using hk⟩
    rw [readPieces_cons h.verdict_eq_none (hne piece List.mem_cons_self), hshift]
    obtain ⟨hpiece, hnot⟩ | ⟨hpiece, hu⟩ | ⟨r₁, hpiece, hreached, hnot⟩ | ⟨r₁, hpiece, hsettled, hnot⟩ :=
      h.firstText_cases he piece <;> rw [hpiece]
    · exact iff_of_false (by simp) (not_exists.2 fun k => hnot _)
    · exact iff_of_true rfl ⟨0, by simpa using hu⟩
    · exact ih hreached hnot fun p hp => hne p (List.mem_cons_of_mem _ hp)
    · exact iff_of_false (readPieces_ne_refused hsettled ending pieces) (not_exists.2 fun k => hnot _)

/-- Reading from the start is refused if the first pieces are text without the byte order mark that it
needs, and not else. -/
theorem readPieces_start_refused_iff (he : e ≠ .undefined) (ending : StreamEnd) {pieces : List Bytes}
    (hne : ∀ p ∈ pieces, p ≠ []) :
    readPieces (Reading.start (Decoder.start e)) ending pieces = .error (.fault .refused) ↔
      ∃ k, Unmarked e (pieces.take k).flatten := by
  have hnot : ¬ Unmarked e [] := by
    rintro ⟨-, -, d, c, cs, h⟩
    cases h
  exact (reached_start e).readPieces_refused_iff he hnot ending hne

/-- The encoding that decodes nothing refuses even the end of no bytes. -/
theorem readPieces_undefined (pieces : List Bytes) (hne : ∀ p ∈ pieces, p ≠ []) :
    readPieces (Reading.start (Decoder.start .undefined)) .endOfFile pieces = .error (.fault .refused) := by
  cases pieces with
  | nil => rfl
  | cons piece pieces =>
    obtain ⟨b, piece, rfl⟩ := List.exists_cons_of_ne_nil (hne piece List.mem_cons_self)
    have hpiece : (Reading.start (Decoder.start .undefined)).readPiece (b :: piece) = .error .refused :=
      readPiece_of_error rfl
    rw [readPieces_cons rfl (List.cons_ne_nil b piece), hpiece]

end Reading

/-! ### Bytes in memory -/

/-- The first pieces are the first bytes. -/
theorem flatten_take_cutPieces (bytes : Bytes) (k : Nat) :
    ((cutPieces bytes).take k).flatten = bytes.take (k * pieceSize) := by
  fun_induction cutPieces bytes generalizing k with
  | case1 bytes _ he => simp [List.isEmpty_iff.1 he]
  | case2 bytes hle _ =>
    cases k with
    | zero => simp
    | succ k =>
      have hall : bytes.length ≤ (k + 1) * pieceSize :=
        Nat.le_trans hle (Nat.le_mul_of_pos_left _ k.succ_pos)
      simp [List.take_of_length_le hall]
  | case3 bytes _ ih =>
    cases k with
    | zero => simp
    | succ k => rw [List.take_succ_cons, List.flatten_cons, ih, Nat.succ_mul, Nat.add_comm, List.take_add]

/-- Reading bytes from the start is refused exactly if the encoding refuses them. -/
theorem readPiecesIn_refused_iff_refuses (codecs : Codecs) (e : TextEncoding) (bytes : Bytes) :
    readPiecesIn codecs e .endOfFile (cutPieces bytes) = .error (.fault .refused) ↔
      Refuses codecs bytes e := by
  have hne : ∀ p ∈ cutPieces bytes, p ≠ [] := fun p hp => (mem_cutPieces hp).1
  cases e with
  | foreign name => exact Reading.readPieces_refused_iff_comesToRefusal _ hne
  | known e =>
    rw [readPiecesIn]
    by_cases he : e = .undefined
    · subst he
      exact iff_of_true (Reading.readPieces_undefined _ hne) (.inl rfl)
    · rw [Reading.readPieces_start_refused_iff he _ hne]
      simp [Refuses, he, flatten_take_cutPieces]

/-- Bytes have a mode or leave it open, unless they are refused. -/
theorem detectBytes_of_find {d : Detector} {e : TextEncoding}
    (hname : Encoding.find d.encoding = .ok e) (bytes : Bytes) :
    (Refuses d.codecs bytes e → (detectBytes d bytes).outcome = .error .refusedBytes) ∧
      (¬ Refuses d.codecs bytes e →
        ∃ m, (detectBytes d bytes).outcome = .ok m ∧ (m = .dtd ∨ m = .xsd ∨ m = .auto)) := by
  have hiff := readPiecesIn_refused_iff_refuses d.codecs e bytes
  rw [detectBytes_outcome_eq, chunkOutcome_eq hname, piecesOf_eq fun _ => mem_cutPieces]
  match hread : readPiecesIn d.codecs e .endOfFile (cutPieces bytes) with
  | .ok m =>
    have hmode := mode_of_readPiecesIn hread
    exact ⟨fun h => absurd (hread ▸ hiff.2 h) nofun, fun _ => ⟨m, rfl, hmode.imp_right .inl⟩⟩
  | .error (.fault .malformed) =>
    exact ⟨fun h => absurd (hread ▸ hiff.2 h) nofun, fun _ => ⟨.auto, rfl, .inr (.inr rfl)⟩⟩
  | .error (.fault .refused) => exact ⟨fun _ => rfl, fun h => absurd (hiff.1 hread) h⟩
  | .error (.readFailed message) => cases (readPiecesIn_eq_readFailed_iff.1 hread).1

/-- Behind the check of its name, an encoding that is none of text fails on all bytes. The other ones
fail exactly on the bytes that they refuse; all other bytes have a mode or leave it open. This holds
whatever codecs are brought along. -/
theorem detectBytes_of_lookup {d : Detector} {standard : String}
    (h : Encoding.lookup d.encoding = .ok standard) (bytes : Bytes) :
    (Encoding.ofStandardName? standard = none →
      (detectBytes d bytes).outcome = .error (.notTextEncoding d.encoding)) ∧
    ∀ e, Encoding.ofStandardName? standard = some e →
      (Refuses d.codecs bytes e → (detectBytes d bytes).outcome = .error .refusedBytes) ∧
      (¬ Refuses d.codecs bytes e →
        ∃ m, (detectBytes d bytes).outcome = .ok m ∧ (m = .dtd ∨ m = .xsd ∨ m = .auto)) := by
  refine ⟨fun hnone => ?_, fun e hsome => detectBytes_of_find ?_ bytes⟩
  · have hfind : Encoding.find d.encoding = .error (.notTextEncoding d.encoding) := by
      simp [Encoding.find_eq, h, Except.bind, hnone]
    simp [detectBytes, detect, Source.lineReader, Stream.ofBytes, hfind]
  · simp [Encoding.find_eq, h, Except.bind, hsome]

/-- The element `<beans/>`, written without a byte order mark. -/
def beansElement : Bytes := [0x3C, 0x62, 0x65, 0x61, 0x6E, 0x73, 0x2F, 0x3E]

theorem beansElement_unmarked : Unmarked (.utf16 none) beansElement := by
  refine ⟨rfl, ?_, _, _, _, rfl⟩
  rintro ⟨mark, rest, heq, hmark⟩
  unfold mark? at hmark
  split at hmark <;> simp_all [beansElement]

/-- A codec of host names: it takes no element for one. -/
def hostNameCodec : Codec where
  decodePiece _ piece := if piece.isEmpty then .ok [] else .error .refused
  decodeAll bytes := if bytes.isEmpty then .ok [] else .error .refused
  decodePiece_end _ _ _ := rfl

theorem beansElement_refused :
    Refuses (fun _ => hostNameCodec) beansElement (.foreign "punycode") := by
  refine ⟨0, hostNameCodec.start, [], rfl, fun m h => ?_, ?_⟩
  · rw [← firstVerdict_eq_some_iff] at h
    cases h
  · rw [cutPieces_of_le (by decide) (by decide)]
    rfl

theorem detectBytes_of_lookup_utf16 :
    (detectBytes ⟨.plain, "utf-16"⟩ beansElement).outcome = .error .refusedBytes ∧
      (detectBytes ⟨fun _ => hostNameCodec, "punycode"⟩ beansElement).outcome = .error .refusedBytes ∧
      (detectBytes ⟨.plain, "hex"⟩ beansElement).outcome = .error (.notTextEncoding "hex") := by
  have hutf16 : Encoding.lookup "utf-16" = .ok "utf_16" := by rfl
  have hpunycode : Encoding.lookup "punycode" = .ok "punycode" := by rfl
  have hhex : Encoding.lookup "hex" = .ok "hex_codec" := by rfl
  have hunmarked : Refuses .plain beansElement (.known (.utf16 none)) := .inr ⟨1, beansElement_unmarked⟩
  exact ⟨((@detectBytes_of_lookup ⟨.plain, "utf-16"⟩ _ hutf16 _).2 _ rfl).1 hunmarked,
    ((@detectBytes_of_lookup ⟨_, "punycode"⟩ _ hpunycode _).2 _ rfl).1 beansElement_refused,
    (@detectBytes_of_lookup ⟨.plain, "hex"⟩ _ hhex _).1 rfl⟩

/-- Detection can fail on malformed bytes, although the name of the encoding is accepted: there is no
byte order mark, or the encoding is none of text. -/
theorem accepted_encoding_can_fail :
    Encoding.lookup "utf-16" = .ok "utf_16" ∧
      (detectBytes ⟨.plain, "utf-16"⟩ beansElement).outcome = .error .refusedBytes ∧
      Encoding.lookup "hex" = .ok "hex_codec" ∧
      (detectBytes ⟨.plain, "hex"⟩ beansElement).outcome = .error (.notTextEncoding "hex") := by
  have hfind : Encoding.find "utf-16" = .ok (.known (.utf16 none)) := by rfl
  exact ⟨rfl, (@detectBytes_of_find ⟨.plain, "utf-16"⟩ _ hfind _).1 (.inr ⟨1, beansElement_unmarked⟩),
    rfl, rfl⟩

end SchemaGate.Detection
