import SchemaGate.Proofs.Detection.Arrival

/-! Detection on bytes in UTF-8, in chunks of any size.

    What has been decoded decides as soon as one of its ended lines does (`Decides`); only then are
    later chunks, whatever they hold, not reached. Where nothing decides, the first chunk that does
    not decode or the end of the stream is reached, so the answer is that of the whole text unless
    one of these fails (`chunks_matter_when_reached`). Hence bytes that decode have the same mode
    however they are cut (`mode_of_any_chunks`). -/

namespace SchemaGate.Detection

open Utf8 (Spells)

/-- The bytes are those of characters, as far as they go. -/
def Decodes (bytes : Bytes) : Prop := ∃ cs rest, Spells bytes cs rest

/-- The readings decide for a mode: one declares a document type before any opens a tag, or else one
opens a tag. -/
def DecidedBy (rs : List (Option Text × Bool)) : Mode → Prop
  | .dtd => DeclaresFirst rs
  | .xsd => ¬ DeclaresFirst rs ∧ ∃ r ∈ rs, OpensTag r
  | _ => False

/-- The pieces decode, and the lines whose ends they hold decide for the mode. -/
def Decides (pieces : List Bytes) (m : Mode) : Prop :=
  ∃ cs rest, Spells pieces.flatten cs rest ∧
    DecidedBy (threaded false (endedLines (textOf cs))) m

/-- What detection answers on an open stream of chunks. -/
def chunkOutcome (d : Detector) (chunks : List Bytes) (ending : StreamEnd) : Except Failure Mode :=
  (detect d ⟨.ofChunks chunks ending, false⟩).outcome

/-- What the end of a stream answers that nothing has decided before: the reading fails, or the bytes
end inside a character, or the whole text has been read. -/
def endOutcome (cs : List Char) (rest : Bytes) : StreamEnd → Except Failure Mode
  | .failure message => .error (.system .other message)
  | .endOfFile => if rest = [] then .ok (modeOfText (textOf cs).joinNewlines) else .ok .auto

/-! ### Lines that decide -/

theorem declaresFirst_of_declares {rs : List (Option Text × Bool)} (htag : ∀ r ∈ rs, ¬ OpensTag r)
    {r : Option Text × Bool} (hr : r ∈ rs) (hd : Declares r) : DeclaresFirst rs := by
  obtain ⟨before, after, rfl⟩ := List.append_of_mem hr
  exact ⟨before, r, after, rfl, hd, fun q hq => htag q (List.mem_append_left _ hq)⟩

theorem firstVerdict_eq_some_iff {rs : List (Option Text × Bool)} {m : Mode} :
    firstVerdict rs = some m ↔ DecidedBy rs m := by
  have htags : (∃ r ∈ rs, Declares r ∨ OpensTag r) ∧ ¬ DeclaresFirst rs ↔ DecidedBy rs .xsd := by
    constructor
    · rintro ⟨⟨r, hr, hd⟩, hn⟩
      by_cases htag : ∃ q ∈ rs, OpensTag q
      · exact ⟨hn, htag⟩
      · have hnone : ∀ q ∈ rs, ¬ OpensTag q := fun q hq ht => htag ⟨q, hq, ht⟩
        exact absurd (declaresFirst_of_declares hnone hr (hd.resolve_right (hnone r hr))) hn
    · rintro ⟨hn, r, hr, ht⟩
      exact ⟨⟨r, hr, .inr ht⟩, hn⟩
  rw [← firstVerdict_isSome_iff, ← firstVerdict_eq_dtd_iff] at htags
  cases m with
  | dtd => exact firstVerdict_eq_dtd_iff
  | xsd =>
    rw [← htags]
    cases hv : firstVerdict rs with
    | none => simp
    | some m => rcases firstVerdict_mem hv with rfl | rfl <;> simp
  | none | auto =>
    refine ⟨fun h => ?_, False.elim⟩
    rcases firstVerdict_mem h with h | h <;> cases h

/-! ### Pieces of bytes -/

theorem cutPieces_of_le {bytes : Bytes} (h : bytes.length ≤ pieceSize) (hne : bytes ≠ []) :
    cutPieces bytes = [bytes] := by
  rw [cutPieces, dif_pos h, if_neg (by simpa using hne)]

theorem flatten_cutPieces (bytes : Bytes) : (cutPieces bytes).flatten = bytes := by
  fun_induction cutPieces bytes with
  | case1 bytes _ he => simpa using (List.isEmpty_iff.1 he).symm
  | case2 bytes _ _ => simp
  | case3 bytes _ ih => rw [List.flatten_cons, ih, List.take_append_drop]

/-- The pieces are the consecutive ones of full size, but for the last. -/
theorem getElem?_cutPieces (bytes : Bytes) (i : Nat) :
    (cutPieces bytes)[i]? = if i * pieceSize < bytes.length then
      some ((bytes.drop (i * pieceSize)).take pieceSize) else none := by
  fun_induction cutPieces bytes generalizing i with
  | case1 bytes _ he => simp [List.isEmpty_iff.1 he]
  | case2 bytes hle hne =>
    have hpos : 0 < bytes.length := List.length_pos_iff.2 (by simpa using hne)
    cases i with
    | zero => simp [hpos, List.take_of_length_le hle]
    | succ i =>
      rw [if_neg (by rw [Nat.succ_mul]; omega)]
      rfl
  | case3 bytes hlt ih =>
    cases i with
    | zero =>
      rw [Nat.zero_mul, if_pos (by omega)]
      rfl
    | succ i =>
      rw [List.getElem?_cons_succ, ih, List.drop_drop, Nat.succ_mul, Nat.add_comm pieceSize]
      simp only [List.length_drop, Nat.lt_sub_iff_add_lt]

theorem mem_cutPieces {bytes piece : Bytes} (h : piece ∈ cutPieces bytes) :
    piece ≠ [] ∧ piece.length ≤ pieceSize := by
  obtain ⟨i, hi⟩ := List.mem_iff_getElem?.1 h
  rw [getElem?_cutPieces] at hi
  split at hi
  · next hlt =>
    cases hi
    have hpos : 0 < pieceSize := by decide
    have hlen : ((bytes.drop (i * pieceSize)).take pieceSize).length ≤ pieceSize :=
      List.length_take_le _ _
    refine ⟨List.ne_nil_of_length_pos ?_, hlen⟩
    rw [List.length_take, List.length_drop]
    omega
  · cases hi

/-- The pieces that a stream of chunks delivers. -/
def piecesOf (chunks : List Bytes) : List Bytes :=
  chunks.flatMap fun c => if c.isEmpty then [[]] else cutPieces c

theorem flatten_piecesOf (chunks : List Bytes) : (piecesOf chunks).flatten = chunks.flatten := by
  induction chunks with
  | nil => rfl
  | cons c chunks ih =>
    rw [piecesOf, List.flatMap_cons, List.flatten_append, ← piecesOf, ih, List.flatten_cons]
    cases c with
    | nil => rfl
    | cons b c => exact congrArg (· ++ _) (flatten_cutPieces _)

theorem ne_nil_of_mem_piecesOf {chunks : List Bytes} (h : ∀ c ∈ chunks, c ≠ []) :
    ∀ p ∈ piecesOf chunks, p ≠ [] := by
  intro p hp
  obtain ⟨c, hc, hp⟩ := List.mem_flatMap.1 hp
  rw [if_neg (by simpa using h c hc)] at hp
  exact (mem_cutPieces hp).1

theorem piecesOf_eq {chunks : List Bytes} (h : ∀ c ∈ chunks, c ≠ [] ∧ c.length ≤ pieceSize) :
    piecesOf chunks = chunks := by
  induction chunks with
  | nil => rfl
  | cons c chunks ih =>
    rw [List.forall_mem_cons] at h
    rw [piecesOf, List.flatMap_cons, ← piecesOf, ih h.2, if_neg (by simpa using h.1.1),
      cutPieces_of_le h.1.2 h.1.1, List.singleton_append]

/-! ### Reading pieces in UTF-8 -/

namespace Reading

theorem decodes_iff {bytes : Bytes} :
    Decodes bytes ↔ ∃ r, (Decoder.start .utf8).readBytes bytes = .ok r := by
  constructor
  · rintro ⟨cs, rest, hs⟩
    exact ⟨(Utf8.decoder rest cs.isEmpty, cs), Utf8.readBytes_eq_ok_iff.2 ⟨rfl, hs⟩⟩
  · rintro ⟨⟨d, cs⟩, hr⟩
    exact ⟨cs, d.pending, (Utf8.readBytes_eq_ok_iff.1 hr).2⟩

variable {r : Reading Decoder} {bytes : Bytes} {cs : List Char}

theorem Reached.spells (h : r.Reached .utf8 bytes cs) :
    r.decoder = Utf8.decoder r.decoder.pending cs.isEmpty ∧ Spells bytes cs r.decoder.pending :=
  Utf8.readBytes_eq_ok_iff.1 h.decoded

/-- What was decoded is determined by the bytes. -/
theorem Reached.eq_of_spells (h : r.Reached .utf8 bytes cs) {cs' : List Char} {rest : Bytes}
    (hs : Spells bytes cs' rest) : cs' = cs ∧ rest = r.decoder.pending := by
  have hd : (Decoder.start .utf8).readBytes bytes = .ok (Utf8.decoder rest cs'.isEmpty, cs') :=
    Utf8.readBytes_eq_ok_iff.2 ⟨rfl, hs⟩
  rw [h.decoded] at hd
  obtain ⟨hdecoder, hcs⟩ := Prod.mk.inj (Except.ok.inj hd)
  exact ⟨hcs.symm, (congrArg Decoder.pending hdecoder).symm⟩

theorem Reached.verdict_iff (h : r.Reached .utf8 bytes cs) {pieces : List Bytes}
    (hp : pieces.flatten = bytes) {m : Mode} : r.scan.verdict = some m ↔ Decides pieces m := by
  have hverdict := h.verdict_eq
  subst hp
  constructor
  · intro hm
    exact ⟨cs, _, h.spells.2, firstVerdict_eq_some_iff.1 (hverdict ▸ hm)⟩
  · rintro ⟨cs', rest, hs, hm⟩
    rw [hverdict, ← (h.eq_of_spells hs).1, firstVerdict_eq_some_iff.2 hm]

/-- A piece that decodes behind the bytes is read, any other one fails. -/
theorem Reached.readPiece_cases (h : r.Reached .utf8 bytes cs) (piece : Bytes) :
    (∃ r' cs', r.readPiece piece = .ok r' ∧ r'.Reached .utf8 (bytes ++ piece) cs') ∨
      (r.readPiece piece = .error .malformed ∧ ¬ Decodes (bytes ++ piece)) := by
  have hwhole := Utf8.readBytes_append_of_ok h.decoded piece
  cases hp : r.decoder.readBytes piece with
  | error f =>
    refine .inr ⟨readPiece_of_error (readPiece_decoder_of_error ?_), fun hd => ?_⟩
    · have hf : f = .malformed := by
        rw [h.spells.1] at hp
        exact Utf8.eq_malformed_of_readBytes hp
      rw [Decoder.readPiece, hp, hf]
    · obtain ⟨d, hd⟩ := decodes_iff.1 hd
      rw [hwhole, hp] at hd
      cases hd
  | ok d =>
    rw [hp] at hwhole
    have hmarked : d.1.unmarked = false := by
      rw [(Utf8.readBytes_eq_ok_iff.1 hwhole).1]
      rfl
    obtain ⟨r', hr', hreached⟩ :=
      h.readPiece (show r.decoder.readPiece piece = .ok (d.1, d.2) by
        rw [Decoder.readPiece, hp]
        simp only [hmarked, Bool.false_eq_true, if_false])
    exact .inl ⟨r', _, hr', hreached⟩

/-- Pieces are read one after another as far as they decode. -/
theorem Reached.readPieces_cases (h : r.Reached .utf8 bytes cs) (pieces : List Bytes) :
    (∃ r' cs', pieces.foldlM Reading.readPiece r = .ok r' ∧
      r'.Reached .utf8 (bytes ++ pieces.flatten) cs') ∨
    (∃ before piece after r' cs', pieces = before ++ piece :: after ∧
      before.foldlM Reading.readPiece r = .ok r' ∧
      r'.Reached .utf8 (bytes ++ before.flatten) cs' ∧
      r'.readPiece piece = .error .malformed ∧
      ¬ Decodes (bytes ++ (before ++ [piece]).flatten)) := by
  induction pieces generalizing r bytes cs with
  | nil => exact .inl ⟨r, cs, rfl, by simpa using h⟩
  | cons p pieces ih =>
    rcases h.readPiece_cases p with ⟨r₁, cs₁, hp, h₁⟩ | ⟨hp, hno⟩
    · have hstep : ∀ ps : List Bytes,
          (p :: ps).foldlM Reading.readPiece r = ps.foldlM Reading.readPiece r₁ := fun ps => by
        rw [List.foldlM_cons, hp]
        rfl
      have hflat : ∀ ps : List Bytes, bytes ++ (p :: ps).flatten = bytes ++ p ++ ps.flatten :=
        fun ps => by rw [List.flatten_cons, List.append_assoc]
      rcases ih h₁ with ⟨r', cs', hr', hreached⟩ | ⟨before, q, after, r', cs', rfl, hr', hreached, hq, hno⟩
      · exact .inl ⟨r', cs', (hstep _).trans hr', hflat _ ▸ hreached⟩
      · refine .inr ⟨p :: before, q, after, r', cs', rfl, (hstep _).trans hr', hflat _ ▸ hreached, hq, ?_⟩
        rwa [List.cons_append, hflat]
    · exact .inr ⟨[], p, pieces, r, cs, rfl, rfl, by simpa using h, hp, by simpa using hno⟩

/-- Bytes that end inside a character do not end a document. -/
theorem Reached.readEnd (h : r.Reached .utf8 bytes cs) :
    PieceDecoder.readEnd r.decoder =
      if r.decoder.pending = [] then .ok (r.decoder, []) else .error .malformed := by
  rw [readEnd_decoder, h.spells.1]
  cases r.decoder.pending <;> rfl

end Reading

theorem Decodes.of_append {a b : Bytes} (h : Decodes (a ++ b)) : Decodes a := by
  rw [Reading.decodes_iff] at h ⊢
  cases ha : (Decoder.start .utf8).readBytes a with
  | ok r => exact ⟨r, rfl⟩
  | error f =>
    rw [Utf8.readBytes_append_of_error ha] at h
    exact h.elim nofun

theorem not_decides_nil (m : Mode) : ¬ Decides [] m := by
  rw [← (Reading.reached_start .utf8).verdict_iff rfl]
  nofun

theorem Decides.decodes {pieces : List Bytes} {m : Mode} (h : Decides pieces m) :
    Decodes pieces.flatten := h.imp fun _ => Exists.imp fun _ => And.left

/-- Pieces all of which decode are read to their end. -/
theorem exists_reached {pieces : List Bytes} (h : Decodes pieces.flatten) :
    ∃ r cs, pieces.foldlM Reading.readPiece (Reading.start (Decoder.start .utf8)) = .ok r ∧
      r.Reached .utf8 pieces.flatten cs := by
  rcases (Reading.reached_start .utf8).readPieces_cases pieces with
    hall | ⟨before, piece, after, r, cs, rfl, -, -, -, hno⟩
  · exact hall
  · refine absurd (Decodes.of_append (b := after.flatten) ?_) hno
    simpa using h

section Outcome

variable {pieces : List Bytes} (hne : ∀ p ∈ pieces, p ≠ [])

include hne

/-- What is behind the pieces that decide is not reached. -/
theorem readPieces_of_decides {m : Mode} (h : Decides pieces m) (ending : StreamEnd) (more : List Bytes) :
    readPieces (Reading.start (Decoder.start .utf8)) ending (pieces ++ more) = .ok m := by
  obtain ⟨r, cs, hr, hreached⟩ := exists_reached h.decodes
  rw [Reading.readPieces_append hne hr,
    Reading.readPieces_of_verdict ((hreached.verdict_iff rfl).2 h)]

theorem readPieces_whole {cs : List Char} (h : Spells pieces.flatten cs []) :
    readPieces (Reading.start (Decoder.start .utf8)) .endOfFile pieces =
      .ok (modeOfText (textOf cs).joinNewlines) := by
  obtain ⟨r, cs', hr, hreached⟩ := exists_reached ⟨cs, [], h⟩
  obtain ⟨rfl, hpending⟩ := hreached.eq_of_spells h
  have hread := Reading.readPieces_append hne hr .endOfFile []
  rw [List.append_nil] at hread
  rw [hread]
  refine Reading.readPieces_nil hreached.toHasDecoded (d := r.decoder) ?_
  rw [hreached.readEnd, if_pos hpending.symm]

variable (hundecided : ∀ k m, ¬ Decides (pieces.take k) m)

include hundecided

/-- A piece that does not decode is reached if nothing decides before it. -/
theorem readPieces_of_not_decodes (h : ¬ Decodes pieces.flatten) (ending : StreamEnd) :
    readPieces (Reading.start (Decoder.start .utf8)) ending pieces = .error (.fault .malformed) := by
  rcases (Reading.reached_start .utf8).readPieces_cases pieces with
    ⟨r, cs, -, hreached⟩ | ⟨before, piece, after, r, cs, rfl, hr, hreached, hp, -⟩
  · exact absurd ⟨cs, _, hreached.spells.2⟩ h
  · have hv : r.scan.verdict = none := by
      refine Option.eq_none_iff_forall_not_mem.2 fun m hm => hundecided before.length m ?_
      rw [List.take_left]
      exact (hreached.verdict_iff rfl).1 hm
    rw [Reading.readPieces_append (fun p hm => hne p (List.mem_append_left _ hm)) hr, readPieces, hv]
    have hpne : piece.isEmpty = false := List.isEmpty_eq_false_iff.2 (hne piece (by simp))
    simp only [hpne, Bool.false_eq_true, if_false, hp]

/-- The end of the stream is reached if nothing decides. -/
theorem readPieces_of_spells {cs : List Char} {rest : Bytes} (h : Spells pieces.flatten cs rest) :
    (∀ message, readPieces (Reading.start (Decoder.start .utf8)) (.failure message) pieces =
      .error (.readFailed message)) ∧
    (rest ≠ [] → readPieces (Reading.start (Decoder.start .utf8)) .endOfFile pieces =
      .error (.fault .malformed)) := by
  obtain ⟨r, cs', hr, hreached⟩ := exists_reached ⟨cs, rest, h⟩
  obtain ⟨rfl, rfl⟩ := hreached.eq_of_spells h
  have hread := fun ending => Reading.readPieces_append hne hr ending []
  simp only [List.append_nil] at hread
  have hv : r.scan.verdict = none := by
    refine Option.eq_none_iff_forall_not_mem.2 fun m hm => hundecided pieces.length m ?_
    rw [List.take_length]
    exact (hreached.verdict_iff rfl).1 hm
  constructor
  · intro message
    simp only [hread, readPieces, hv]
  · intro hrest
    simp only [hread, readPieces, hv, Reading.readEnd, hreached.readEnd, if_neg hrest]

end Outcome

/-! ### Chunks -/

theorem ofChunks_eq (chunks : List Bytes) (ending : StreamEnd) :
    Stream.ofChunks chunks ending = .binary (piecesOf chunks) ending := rfl

theorem chunkOutcome_eq {d : Detector} {e : TextEncoding} (hname : Encoding.find d.encoding = .ok e)
    (chunks : List Bytes) (ending : StreamEnd) :
    chunkOutcome d chunks ending =
      match readPiecesIn d.codecs e ending (piecesOf chunks) with
      | .ok mode => .ok mode
      | .error (.fault .malformed) => .ok .auto
      | .error (.fault .refused) => .error .refusedBytes
      | .error (.readFailed message) => .error (.system .other message) := by
  simp only [chunkOutcome, detect, Source.lineReader, Source.use, LineReader.detect, ofChunks_eq, hname,
    Bool.false_eq_true, if_false]
  rcases readPiecesIn d.codecs e ending (piecesOf chunks) with ((_ | _) | _) | _ <;> rfl

/-- Bytes in memory are read as chunks of full size. -/
theorem detectBytes_outcome_eq (d : Detector) (bytes : Bytes) :
    (detectBytes d bytes).outcome = chunkOutcome d (cutPieces bytes) .endOfFile := by
  rw [chunkOutcome, ofChunks_eq, piecesOf_eq fun _ => mem_cutPieces]
  rfl

section Utf8Detector

variable {d : Detector} (hname : Encoding.find d.encoding = .ok (.known .utf8))

include hname

theorem chunkOutcome_utf8 (chunks : List Bytes) (ending : StreamEnd) :
    chunkOutcome d chunks ending =
      match readPieces (Reading.start (Decoder.start .utf8)) ending (piecesOf chunks) with
      | .ok mode => .ok mode
      | .error (.fault .malformed) => .ok .auto
      | .error (.fault .refused) => .error .refusedBytes
      | .error (.readFailed message) => .error (.system .other message) :=
  chunkOutcome_eq hname chunks ending

/-- What is written in UTF-8 is detected as its text is, whatever chunks it comes in. -/
theorem chunkOutcome_of_encode {cs : List Char} {chunks : List Bytes} (hne : ∀ c ∈ chunks, c ≠ [])
    (h : chunks.flatten = Utf8.encode cs) :
    chunkOutcome d chunks .endOfFile = .ok (modeOfText (textOf cs).joinNewlines) := by
  have hspells : Spells (piecesOf chunks).flatten cs [] :=
    ⟨by rw [flatten_piecesOf, h, List.append_nil], Utf8.leads_nil⟩
  rw [chunkOutcome_utf8 hname, readPieces_whole (ne_nil_of_mem_piecesOf hne) hspells]

variable {chunks : List Bytes} (hc : ∀ c ∈ chunks, c ≠ [] ∧ c.length ≤ pieceSize)

include hc

theorem chunkOutcome_of_decides {k : Nat} {m : Mode} (h : Decides (chunks.take k) m)
    (ending : StreamEnd) : chunkOutcome d chunks ending = .ok m := by
  have hread := readPieces_of_decides (fun c hm => (hc c (List.mem_of_mem_take hm)).1) h ending
    (chunks.drop k)
  rw [List.take_append_drop] at hread
  rw [chunkOutcome_utf8 hname, piecesOf_eq hc, hread]

variable (hundecided : ∀ k m, ¬ Decides (chunks.take k) m)

include hundecided

theorem chunkOutcome_of_not_decodes (h : ¬ Decodes chunks.flatten) (ending : StreamEnd) :
    chunkOutcome d chunks ending = .ok .auto := by
  rw [chunkOutcome_utf8 hname, piecesOf_eq hc,
    readPieces_of_not_decodes (fun c hm => (hc c hm).1) hundecided h]

theorem chunkOutcome_of_spells {cs : List Char} {rest : Bytes} (h : Spells chunks.flatten cs rest)
    (ending : StreamEnd) : chunkOutcome d chunks ending = endOutcome cs rest ending := by
  have hne : ∀ c ∈ chunks, c ≠ [] := fun c hm => (hc c hm).1
  obtain ⟨hfailure, htruncated⟩ := readPieces_of_spells hne hundecided h
  cases ending with
  | failure message =>
    rw [chunkOutcome_utf8 hname, piecesOf_eq hc, hfailure]
    rfl
  | endOfFile =>
    rw [endOutcome]
    split
    · next hrest =>
      subst hrest
      exact chunkOutcome_of_encode hname hne (h.1.trans (List.append_nil _))
    · next hrest => rw [chunkOutcome_utf8 hname, piecesOf_eq hc, htruncated hrest]

omit hundecided hc in
/-- A document of one piece that is not written in UTF-8 leaves the mode open, unless it only ends
inside a character and a line before has decided. -/
theorem detectBytes_of_not_encode {bytes : Bytes} (hle : bytes.length ≤ pieceSize)
    (hbytes : ∀ cs, bytes ≠ Utf8.encode cs) (hno : ∀ m, ¬ Decides [bytes] m) :
    (detectBytes d bytes).outcome = .ok .auto := by
  have hne : bytes ≠ [] := hbytes []
  have hsingle : ∀ c ∈ [bytes], c ≠ [] ∧ c.length ≤ pieceSize := by simpa using ⟨hne, hle⟩
  have hundecided : ∀ k m, ¬ Decides ([bytes].take k) m := by
    intro k m
    cases k with
    | zero => exact not_decides_nil m
    | succ k => simpa using hno m
  rw [detectBytes_outcome_eq, cutPieces_of_le hle hne]
  by_cases hd : Decodes bytes
  · obtain ⟨cs, rest, hs⟩ := hd
    have hrest : rest ≠ [] := by
      rintro rfl
      exact hbytes cs (hs.1.trans (List.append_nil _))
    rw [chunkOutcome_of_spells hname hsingle hundecided (by simpa using hs), endOutcome,
      if_neg hrest]
  · exact chunkOutcome_of_not_decodes hname hsingle hundecided (by simpa using hd) _

end Utf8Detector

/-! ### Detection in chunks -/

/-- Bytes that are written in UTF-8 are never left open, and their mode is that of their text with
all line ends made newlines: it does not depend on how they are cut, and so it is also the mode of
the bytes in memory. -/
theorem mode_of_any_chunks {d : Detector} (hname : Encoding.find d.encoding = .ok (.known .utf8))
    {cs : List Char} {chunks : List Bytes} (hne : ∀ c ∈ chunks, c ≠ []) (h : chunks.flatten = Utf8.encode cs) :
    ∃ m, m ≠ .auto ∧ chunkOutcome d chunks .endOfFile = .ok m ∧
      textOutcome d (textOf cs).joinNewlines = .ok m ∧
      (detectBytes d (Utf8.encode cs)).outcome = .ok m := by
  refine ⟨modeOfText (textOf cs).joinNewlines, ?_, chunkOutcome_of_encode hname hne h,
    textOutcome_eq _ _, ?_⟩
  · rcases modeOfLines_cases (documentLines (textOf cs).joinNewlines) with ⟨-, hm⟩ | ⟨-, hm⟩ <;>
      simp [modeOfText, hm]
  · rw [detectBytes_outcome_eq]
    exact chunkOutcome_of_encode hname (fun _ hm => (mem_cutPieces hm).1) (flatten_cutPieces _)

/-- A declaration behind a comment, cut inside the comment's marks, a character and a line end. -/
def cutInside : List Bytes :=
  [[0x3C, 0x21, 0x2D], [0x2D, 0xC3], [0xA9, 0x0D], [0x0A, 0x2D, 0x2D], [0x3E, 0x3C, 0x21],
    [0x44, 0x4F, 0x43, 0x54, 0x59, 0x50, 0x45]]

theorem mode_of_any_chunks_cutInside :
    ∃ m, m ≠ .auto ∧ chunkOutcome .utf8 cutInside .endOfFile = .ok m ∧
      textOutcome .utf8 (textOf "<!--é\r\n--><!DOCTYPE".toList).joinNewlines = .ok m ∧
      (detectBytes .utf8 (Utf8.encode "<!--é\r\n--><!DOCTYPE".toList)).outcome = .ok m :=
  mode_of_any_chunks rfl (by decide) (by decide)

/-- Of what comes in chunks only as much is reached as the first line that decides needs. So later
chunks and a failing read do not matter behind chunks that decode and hold the end of such a line. If
there is none, bytes that do not decode leave the mode open, a failing read fails, and bytes that end
inside a character leave the mode open as well; else the mode is that of the whole text. Bytes in
memory come in pieces of full size: a document of one piece that does not decode leaves the mode
open, whatever it begins with, and so does one that ends inside a character, unless a line decides. -/
theorem chunks_matter_when_reached {d : Detector} (hname : Encoding.find d.encoding = .ok (.known .utf8))
    {chunks : List Bytes} (hc : ∀ c ∈ chunks, c ≠ [] ∧ c.length ≤ pieceSize) (ending : StreamEnd) :
    (∀ k m, Decides (chunks.take k) m → chunkOutcome d chunks ending = .ok m) ∧
    ((∀ k m, ¬ Decides (chunks.take k) m) →
      ((∃ k, ¬ Decodes (chunks.take k).flatten) → chunkOutcome d chunks ending = .ok .auto) ∧
      ∀ cs rest, Spells chunks.flatten cs rest →
        chunkOutcome d chunks ending = endOutcome cs rest ending) ∧
    ∀ bytes : Bytes,
      (detectBytes d bytes).outcome = chunkOutcome d (cutPieces bytes) .endOfFile ∧
      (∀ i, (cutPieces bytes)[i]? = if i * pieceSize < bytes.length then
        some ((bytes.drop (i * pieceSize)).take pieceSize) else none) ∧
      (bytes.length ≤ pieceSize → ¬ Decodes bytes →
        (detectBytes d bytes).outcome = .ok .auto) ∧
      (bytes.length ≤ pieceSize → (∀ cs, bytes ≠ Utf8.encode cs) → (∀ m, ¬ Decides [bytes] m) →
        (detectBytes d bytes).outcome = .ok .auto) := by
  refine ⟨fun k m hm => chunkOutcome_of_decides hname hc hm ending, fun hundecided => ⟨?_, ?_⟩,
    fun bytes => ⟨detectBytes_outcome_eq d bytes, getElem?_cutPieces bytes, ?_, ?_⟩⟩
  · rintro ⟨k, hk⟩
    refine chunkOutcome_of_not_decodes hname hc hundecided (fun hd => hk ?_) ending
    rw [← List.take_append_drop k chunks, List.flatten_append] at hd
    exact hd.of_append
  · exact fun cs rest hs => chunkOutcome_of_spells hname hc hundecided hs ending
  · intro hle hd
    refine detectBytes_of_not_encode hname hle (fun cs hcs => hd ?_) fun m hm => hd ?_
    · exact ⟨cs, [], hcs.trans (List.append_nil _).symm, Utf8.leads_nil⟩
    · simpa using hm.decodes
  · exact detectBytes_of_not_encode hname

/-- A declaration of a document type on a line of its own. -/
def declarationLine : Bytes := Utf8.encode "<!DOCTYPE a>\n".toList

theorem declarationLine_decides (rest : Bytes) (h : Utf8.Leads rest) :
    Decides [declarationLine ++ rest] .dtd :=
  ⟨"<!DOCTYPE a>\n".toList, rest, ⟨by simp [declarationLine], h⟩,
    firstVerdict_eq_some_iff.1 (by decide +kernel)⟩

theorem chunks_matter_when_reached_declarationLine :
    chunkOutcome .utf8 [declarationLine, [0xFF]] (.failure "gone") = .ok .dtd ∧
      (detectBytes .utf8 (declarationLine ++ [0xFF])).outcome = .ok .auto := by
  have hundecodable : ¬ Decodes (declarationLine ++ [0xFF]) := by
    rw [Reading.decodes_iff]
    rintro ⟨r, hr⟩
    cases hr
  have hchunks : ∀ c ∈ [declarationLine, [0xFF]], c ≠ [] ∧ c.length ≤ pieceSize := by decide
  obtain ⟨hdecides, -, hmemory⟩ :=
    chunks_matter_when_reached (show Encoding.find Detector.utf8.encoding = _ from rfl) hchunks (.failure "gone")
  exact ⟨hdecides 1 .dtd (by simpa using declarationLine_decides [] Utf8.leads_nil),
    (hmemory _).2.2.1 (by decide) hundecodable⟩

/-- Not every document of one piece that is not written in UTF-8 leaves the mode open: the end of the
bytes is not reached behind a line that decides. -/
theorem truncated_document_can_decide :
    (declarationLine ++ [0xC3]).length ≤ pieceSize ∧
      (∀ cs, declarationLine ++ [0xC3] ≠ Utf8.encode cs) ∧
      (detectBytes .utf8 (declarationLine ++ [0xC3])).outcome = .ok .dtd := by
  have hleads : Utf8.Leads [0xC3] := Utf8.leads_one_iff.2 (by decide)
  have hle : (declarationLine ++ [0xC3]).length ≤ pieceSize := by decide
  refine ⟨hle, fun cs hcs => ?_, ?_⟩
  · have hread := Utf8.readBytes_encode cs Utf8.leads_nil true
    rw [List.append_nil, ← hcs] at hread
    cases hread
  · rw [detectBytes_outcome_eq, cutPieces_of_le hle (by decide)]
    exact chunkOutcome_of_decides rfl (k := 1) (by simpa using hle)
      (by simpa using declarationLine_decides _ hleads) _

end SchemaGate.Detection
