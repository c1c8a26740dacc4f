import SchemaGate.Proofs.Detection.Verdict
import SchemaGate.Proofs.Encoding.Utf8
import SchemaGate.Proofs.Text.Newlines

/-! A document that arrives in pieces.

    Between two pieces a reading holds the bytes of a character that is not complete, a carriage
    return that may be half of a line end, and the text of a line that is not ended. All three are
    determined by what has been decoded so far (`Reached`): the pieces may be cut anywhere. Every piece
    that decodes preserves this (`Reached.readPiece`), and at the end of the stream the reading has
    scanned the document (`readPieces_nil`). -/

namespace SchemaGate.Detection

/-- The text that characters are. -/
def textOf (cs : List Char) : Text := cs.map .char

/-- The lines whose ends have been decoded, without these ends. A carriage return at the very end is
none yet. -/
def endedLines (t : Text) : List Text := (cutLines t.settled.joinNewlines).1.map dropLineEnd

namespace Reading

variable {δ : Type}

/-- The reading has read the text: it has scanned the lines that are ended and keeps the rest. -/
structure HasRead (r : Reading δ) (t : Text) : Prop where
  unfinished : r.unfinished = (cutLines t).2
  scan : r.scan = Scan.start.readLines ((cutLines t).1.map dropLineEnd)

/-- The reading has decoded the text and read what is settled of it. -/
structure HasDecoded (r : Reading δ) (t : Text) : Prop where
  held : r.heldReturn = t.endsInReturn
  hasRead : r.HasRead t.settled.joinNewlines

/-- The reading has decoded the characters from the bytes and read what is settled of them. -/
structure Reached (r : Reading Decoder) (e : Encoding) (bytes : Bytes) (cs : List Char) : Prop extends
    r.HasDecoded (textOf cs) where
  decoded : (Decoder.start e).readBytes bytes = .ok (r.decoder, cs)

/-! ### Text -/

/-- Cutting may go on where it stopped. -/
theorem cutLines_resume (a b : Text) :
    cutLines (a ++ b) = ((cutLines a).1 ++ (cutLines ((cutLines a).2 ++ b)).1,
      (cutLines ((cutLines a).2 ++ b)).2) := by
  induction a with
  | nil => rfl
  | cons c a ih =>
    rw [List.cons_append, cutLines, ih, cutLines]
    by_cases hc : c = .char '\n'
    · simp [hc]
    · cases hl : (cutLines a).1 with
      | nil => simp [hc, hl, cutLines]
      | cons line lines => simp [hc, hl]

theorem HasRead.readText {r : Reading δ} {t : Text} (h : r.HasRead t) (more : Text) :
    (r.readText more).HasRead (t ++ more) := by
  have hcut := cutLines_resume t more
  constructor
  · rw [hcut, ← h.unfinished]
    rfl
  · rw [hcut, ← h.unfinished, List.map_append, Scan.readLines_append, ← h.scan]
    rfl

/-- With what is left of the text as its last line, the whole document has been scanned. -/
theorem HasRead.scan_readUnfinished {r : Reading δ} {t : Text} (h : r.HasRead t) :
    r.readUnfinished.scan = Scan.start.readLines (documentLines t) := by
  rw [readUnfinished, documentLines_eq, rawLines, ← h.unfinished]
  split
  · exact h.scan
  · rw [List.map_append, Scan.readLines_append, ← h.scan]
    rfl

/-- The lines that are scanned are the first ones of every document that starts with the text. -/
theorem HasRead.exists_scan_documentLines {r : Reading δ} {t : Text} (h : r.HasRead t) (more : Text) :
    ∃ rest, Scan.start.readLines (documentLines (t ++ more)) = r.scan.readLines rest := by
  have hlines : ∃ rest, rawLines (t ++ more) = (cutLines t).1 ++ rest := by
    rw [rawLines, cutLines_resume]
    split
    · exact ⟨_, rfl⟩
    · exact ⟨_, List.append_assoc _ _ _⟩
  obtain ⟨rest, hrest⟩ := hlines
  rw [documentLines_eq, hrest, List.map_append, Scan.readLines_append, ← h.scan]
  exact ⟨_, rfl⟩

/-! ### Pieces -/

/-- The carriage return that was held goes in front of the next text; of both what is settled goes
on. -/
theorem holdReturn_eq (isHeld : Bool) {t : Text} (h : t ≠ []) :
    holdReturn isHeld t = (Text.settled (Text.held isHeld ++ t), t.endsInReturn) := by
  rw [← Text.endsInReturn_append h (Text.held isHeld)]
  have hcons : Text.held isHeld ++ t = if isHeld then .char '\r' :: t else t := by
    cases isHeld <;> rfl
  obtain ⟨c, t, rfl⟩ := List.exists_cons_of_ne_nil h
  rw [hcons, holdReturn, Text.settled, Text.endsInReturn]
  generalize (if isHeld then CodePoint.char '\r' :: c :: t else c :: t) = whole
  by_cases hw : whole.getLast? = some (.char '\r') <;> simp [hw]

/-- So the settled text grows by what goes on, whether line ends are joined before or afterwards. -/
theorem holdReturn_settled (t more : Text) :
    (holdReturn t.endsInReturn more).2 = (t ++ more).endsInReturn ∧
      t.settled.joinNewlines ++ (holdReturn t.endsInReturn more).1.joinNewlines =
        (t ++ more).settled.joinNewlines := by
  by_cases h : more = []
  · subst h
    simp [holdReturn, Text.joinNewlines]
  · rw [holdReturn_eq _ h]
    exact ⟨(Text.endsInReturn_append h t).symm, Text.joinNewlines_settled t h⟩

/-- What decides is a line that is ended. -/
theorem HasDecoded.verdict_eq {r : Reading δ} {t : Text} (h : r.HasDecoded t) :
    r.scan.verdict = firstVerdict (threaded false (endedLines t)) := by
  rw [h.hasRead.scan]
  exact Scan.verdict_readLines _ _

theorem hasDecoded_start (decoder : δ) : (Reading.start decoder).HasDecoded [] := ⟨rfl, rfl, rfl⟩

theorem reached_start (e : Encoding) : (Reading.start (Decoder.start e)).Reached e [] [] :=
  ⟨hasDecoded_start _, rfl⟩

section

variable [PieceDecoder δ] {r : Reading δ} {piece : Bytes}

/-- A piece that decodes takes the reading on. -/
theorem HasDecoded.readPiece {t more : Text} {d : δ} (h : r.HasDecoded t)
    (hp : PieceDecoder.readPiece r.decoder piece = .ok (d, more)) :
    ∃ r', r.readPiece piece = .ok r' ∧ r'.decoder = d ∧ r'.HasDecoded (t ++ more) := by
  obtain ⟨hheld, hsettled⟩ := holdReturn_settled t more
  rw [← h.held] at hheld hsettled
  -- only the text matters to what is scanned, not the decoder or the carriage return
  have hread : ({ r with
      decoder := d
      heldReturn := (holdReturn r.heldReturn more).2 } : Reading δ).HasRead t.settled.joinNewlines :=
    ⟨h.hasRead.unfinished, h.hasRead.scan⟩
  rw [Reading.readPiece, hp]
  exact ⟨_, rfl, rfl, hheld, hsettled ▸ hread.readText _⟩

theorem readPiece_of_error {f : DecodeFault} (h : PieceDecoder.readPiece r.decoder piece = .error f) :
    r.readPiece piece = .error f := by
  rw [Reading.readPiece, h]

end

theorem readBytes_of_readPiece {d d' : Decoder} {piece : Bytes} {cs : List Char}
    (h : d.readPiece piece = .ok (d', cs)) : d.readBytes piece = .ok (d', cs) := by
  rw [Decoder.readPiece] at h
  cases hb : d.readBytes piece with
  | error e => simp [hb] at h
  | ok r =>
    simp only [hb] at h
    split at h
    · cases h
    · exact congrArg _ (Except.ok.inj h)

theorem readPiece_decoder (d : Decoder) (piece : Bytes) :
    PieceDecoder.readPiece d piece = (d.readPiece piece).map fun (d, cs) => (d, textOf cs) := rfl

theorem readPiece_decoder_of_error {d : Decoder} {piece : Bytes} {f : DecodeFault}
    (h : d.readPiece piece = .error f) : PieceDecoder.readPiece d piece = .error f := by
  rw [readPiece_decoder, h]
  rfl

theorem readEnd_decoder (d : Decoder) :
    PieceDecoder.readEnd d = d.finish.map fun _ => (d, []) := rfl

/-- Characters are decoded from the bytes of a piece behind those before it. -/
theorem Reached.readPiece {r : Reading Decoder} {e : Encoding} {bytes piece : Bytes}
    {cs more : List Char} {d : Decoder} (h : r.Reached e bytes cs)
    (hp : r.decoder.readPiece piece = .ok (d, more)) :
    ∃ r', r.readPiece piece = .ok r' ∧ r'.Reached e (bytes ++ piece) (cs ++ more) := by
  have hbytes : (Decoder.start e).readBytes (bytes ++ piece) = .ok (d, cs ++ more) := by
    rw [Utf8.readBytes_append_of_ok h.decoded, readBytes_of_readPiece hp]
    rfl
  have hpiece : PieceDecoder.readPiece r.decoder piece = .ok (d, textOf more) := by
    rw [readPiece_decoder, hp]
    rfl
  obtain ⟨r', hread, rfl, hdecoded⟩ := h.toHasDecoded.readPiece hpiece
  have htext : textOf (cs ++ more) = textOf cs ++ textOf more := List.map_append
  exact ⟨r', hread, ⟨htext ▸ hdecoded, hbytes⟩⟩

theorem mode_of_hasRead {r : Reading δ} {t : Text} (h : r.HasRead t) :
    r.readUnfinished.scan.mode = modeOfText t := congrArg Scan.mode h.scan_readUnfinished

theorem readUnfinished_of_isEmpty {r : Reading δ} (h : r.unfinished.isEmpty = true) :
    r.readUnfinished = r := by
  rw [readUnfinished, if_pos h]

theorem readUnfinished_readUnfinished (r : Reading δ) :
    r.readUnfinished.readUnfinished = r.readUnfinished := by
  apply readUnfinished_of_isEmpty
  rw [readUnfinished]
  split
  · assumption
  · rfl

/-! ### Streams of pieces -/

variable [PieceDecoder δ]

theorem scan_of_readPiece {r r' : Reading δ} {piece : Bytes} (h : r.readPiece piece = .ok r') :
    ∃ lines, r'.scan = r.scan.readLines lines := by
  rw [Reading.readPiece] at h
  cases hp : PieceDecoder.readPiece r.decoder piece with
  | error e => simp [hp] at h
  | ok d =>
    simp only [hp, Except.ok.injEq] at h
    subst h
    exact ⟨_, rfl⟩

theorem readPieces_of_verdict {r : Reading δ} {m : Mode} (h : r.scan.verdict = some m)
    (ending : StreamEnd) (pieces : List Bytes) : readPieces r ending pieces = .ok m := by
  cases pieces <;> rw [readPieces] <;> simp [h]

/-- Reading pieces goes on behind the ones that have been read, or has ended with their verdict. -/
theorem readPieces_append {r r' : Reading δ} {pieces : List Bytes} (hne : ∀ p ∈ pieces, p ≠ [])
    (h : pieces.foldlM Reading.readPiece r = .ok r') (ending : StreamEnd) (more : List Bytes) :
    readPieces r ending (pieces ++ more) = readPieces r' ending more := by
  induction pieces generalizing r with
  | nil =>
    cases h
    rfl
  | cons p pieces ih =>
    rw [List.foldlM_cons] at h
    cases hp : r.readPiece p with
    | error f => simp [hp, bind, Except.bind] at h
    | ok r₁ =>
      rw [hp] at h
      have hrest := ih (fun q hq => hne q (List.mem_cons_of_mem p hq)) h
      rw [List.cons_append, readPieces]
      cases hv : r.scan.verdict with
      | none =>
        have hpne : p.isEmpty = false := List.isEmpty_eq_false_iff.2 (hne p List.mem_cons_self)
        simp only [hpne, Bool.false_eq_true, if_false, hp]
        exact hrest
      | some m =>
        obtain ⟨lines, hs⟩ := scan_of_readPiece hp
        have hv₁ : r₁.scan.verdict = some m := by rw [hs, Scan.readLines_of_verdict hv, hv]
        rw [← hrest, readPieces_of_verdict hv₁]

/-- The end of a stream completes its last line, and with it the document. -/
theorem readPieces_nil {r : Reading δ} {t : Text} (h : r.HasDecoded t) {d : δ}
    (hend : PieceDecoder.readEnd r.decoder = .ok (d, [])) :
    readPieces r .endOfFile [] = .ok (modeOfText t.joinNewlines) := by
  obtain ⟨hheld, hread⟩ := h
  have hjoin := Text.joinNewlines_held t
  rw [← hheld] at hjoin
  cases hv : r.scan.verdict with
  | some m =>
    obtain ⟨rest, hscan⟩ := hread.exists_scan_documentLines (if r.heldReturn then [.char '\n'] else [])
    rw [hjoin, Scan.readLines_of_verdict hv] at hscan
    rw [readPieces_of_verdict hv, modeOfText, modeOfLines, hscan, Scan.mode, hv]
    rfl
  | none =>
    rw [← hjoin]
    simp only [readPieces, hv, readEnd, hend]
    cases hr : r.heldReturn with
    | true =>
      have hsame : ({ r with decoder := d, heldReturn := false } : Reading δ).HasRead
          t.settled.joinNewlines := ⟨hread.unfinished, hread.scan⟩
      exact congrArg _ (mode_of_hasRead (hsame.readText [.char '\n']))
    | false =>
      have hsame : ({ r with decoder := d } : Reading δ).HasRead t.settled.joinNewlines :=
        ⟨hread.unfinished, hread.scan⟩
      have hmode := mode_of_hasRead hsame
      simp only [hr, Bool.false_eq_true, if_false, List.append_nil, ← hmode]
      by_cases hu : r.unfinished.isEmpty
      · simp [hu, readUnfinished_of_isEmpty]
      · simp [hu, readUnfinished_readUnfinished]

end Reading

end SchemaGate.Detection
