import SchemaGate.Proofs.Detection.Chunks
import SchemaGate.Proofs.Detection.Reads

/-! Bytes that a decoder refuses.

    Whatever a decoder does, the pieces that reads have left behind are decoded one after another, and
    what is scanned are the lines of their texts (`exists_decodePieces`, `HasDecoded.exists_reading`). So
    whether reading is refused can be told from the decoder and the pieces alone
    (`readPieces_refused_iff_comesToRefusal`). -/

namespace SchemaGate.Detection

variable {δ : Type} [PieceDecoder δ]

/-- The text of pieces that are decoded one after another, and the decoder behind them. -/
def decodePieces (d : δ) : List Bytes → Except DecodeFault (δ × Text)
  | [] => .ok (d, [])
  | piece :: pieces =>
    (PieceDecoder.readPiece d piece).bind fun (d, text) =>
      (decodePieces d pieces).map fun (d, more) => (d, text ++ more)

/-- Decodes a piece, or the end if there is none. -/
def decodeNext (d : δ) : Option Bytes → Except DecodeFault (δ × Text)
  | some piece => PieceDecoder.readPiece d piece
  | none => PieceDecoder.readEnd d

/-- Reading comes to a refusal: the pieces in front of it decode, no line that they hold decides, and
then a piece, or the end behind all of them, is refused. -/
def ComesToRefusal (decoder : δ) (pieces : List Bytes) : Prop :=
  ∃ k d text, decodePieces decoder (pieces.take k) = .ok (d, text) ∧
    (∀ m, ¬ DecidedBy (threaded false (endedLines text)) m) ∧
    decodeNext d pieces[k]? = .error .refused

theorem decodePieces_of_ok {d d' : δ} {piece : Bytes} {text : Text}
    (h : PieceDecoder.readPiece d piece = .ok (d', text)) (pieces : List Bytes) :
    decodePieces d (piece :: pieces) =
      (decodePieces d' pieces).map fun (d, more) => (d, text ++ more) := by
  rw [decodePieces, h]
  rfl

namespace Reading

variable {r r' : Reading δ} {t : Text}

theorem finish_of_readEnd {f : DecodeFault} (h : r.readEnd = .error f) :
    PieceDecoder.readEnd r.decoder = .error f := by
  rw [readEnd] at h
  cases hf : PieceDecoder.readEnd r.decoder with
  | error g => simpa [hf] using h
  | ok =>
    simp only [hf] at h
    split at h
    · cases h
    · split at h <;> cases h

theorem readEnd_of_error {f : DecodeFault} (h : PieceDecoder.readEnd r.decoder = .error f) :
    r.readEnd = .error f := by
  rw [readEnd, h]

/-- A piece is read if it decodes, and then the reading has decoded so much more. -/
theorem HasDecoded.readPiece_cases (h : r.HasDecoded t) (piece : Bytes) :
    (∃ r' more, r.readPiece piece = .ok r' ∧ r'.HasDecoded (t ++ more) ∧
      PieceDecoder.readPiece r.decoder piece = .ok (r'.decoder, more)) ∨
    ∃ f, r.readPiece piece = .error f ∧ PieceDecoder.readPiece r.decoder piece = .error f := by
  cases hp : PieceDecoder.readPiece r.decoder piece with
  | error f => exact .inr ⟨f, readPiece_of_error hp, rfl⟩
  | ok found =>
    obtain ⟨r', hread, hdecoder, hdecoded⟩ := h.readPiece hp
    exact .inl ⟨r', found.2, hread, hdecoded, by rw [hdecoder]⟩

omit [PieceDecoder δ] in
theorem HasDecoded.verdict_eq_none_iff (h : r.HasDecoded t) :
    r.scan.verdict = none ↔ ∀ m, ¬ DecidedBy (threaded false (endedLines t)) m := by
  simp only [h.verdict_eq, Option.eq_none_iff_forall_ne_some, ne_eq, firstVerdict_eq_some_iff]

/-- Reads decode the pieces that they leave behind. -/
theorem exists_decodePieces {pieces left : List Bytes} (h : ReadsTo r pieces r' left)
    (hne : ∀ p ∈ pieces, p ≠ []) (hr : r.HasDecoded t) :
    ∃ k more, left = pieces.drop k ∧ decodePieces r.decoder (pieces.take k) = .ok (r'.decoder, more) ∧
      r'.HasDecoded (t ++ more) := by
  induction h generalizing t with
  | refl r pieces => exact ⟨0, [], rfl, rfl, by simpa using hr⟩
  | @piece r r₁ r' piece pieces left undecided ne_nil read more ih =>
    obtain ⟨r₂, text, hok, hdecoded, hpiece⟩ | ⟨f, herror, -⟩ := hr.readPiece_cases piece
    · rw [hok] at read
      cases read
      obtain ⟨k, rest, hleft, hrest, hlast⟩ := ih (fun p hp => hne p (List.mem_cons_of_mem _ hp)) hdecoded
      refine ⟨k + 1, text ++ rest, hleft, ?_, by rwa [← List.append_assoc]⟩
      rw [List.take_succ_cons, decodePieces_of_ok hpiece, hrest]
      rfl
    · rw [herror] at read
      cases read
  | gap => exact absurd rfl (hne [] List.mem_cons_self)

/-- Pieces that decode are read one after another. -/
theorem HasDecoded.exists_reading (h : r.HasDecoded t) {pieces : List Bytes} {d : δ} {more : Text}
    (hd : decodePieces r.decoder pieces = .ok (d, more)) :
    ∃ r', pieces.foldlM Reading.readPiece r = .ok r' ∧ r'.decoder = d ∧ r'.HasDecoded (t ++ more) := by
  induction pieces generalizing r t more with
  | nil =>
    cases hd
    exact ⟨r, rfl, rfl, by simpa using h⟩
  | cons piece pieces ih =>
    obtain ⟨r₁, text, hok, hdecoded, hpiece⟩ | ⟨f, -, hpiece⟩ := h.readPiece_cases piece
    · rw [decodePieces_of_ok hpiece] at hd
      cases hrest : decodePieces r₁.decoder pieces with
      | error f =>
        rw [hrest] at hd
        cases hd
      | ok found =>
        rw [hrest] at hd
        cases hd
        obtain ⟨r', hread, hdecoder, hlast⟩ := ih hdecoded hrest
        refine ⟨r', ?_, hdecoder, by rwa [← List.append_assoc]⟩
        rw [List.foldlM_cons, hok]
        exact hread
    · rw [decodePieces, hpiece] at hd
      cases hd

/-- Reading is refused exactly if it comes to a refusal. -/
theorem readPieces_refused_iff_comesToRefusal (decoder : δ) {pieces : List Bytes}
    (hne : ∀ p ∈ pieces, p ≠ []) :
    readPieces (Reading.start decoder) .endOfFile pieces = .error (.fault .refused) ↔
      ComesToRefusal decoder pieces := by
  have hstart := hasDecoded_start decoder
  constructor
  · intro hrefused
    obtain ⟨r', left, hreads, hhalts⟩ := exists_readsTo (Reading.start decoder) .endOfFile pieces
    obtain ⟨k, text, rfl, hdecode, hlast⟩ := exists_decodePieces hreads hne hstart
    rw [hrefused] at hhalts
    generalize hleft : pieces.drop k = left at hhalts
    have hnext : pieces[k]? = left.head? := by rw [← hleft, List.head?_drop]
    cases hhalts with
    | undecodable undecided _ read =>
      refine ⟨k, _, _, hdecode, hlast.verdict_eq_none_iff.1 undecided, ?_⟩
      obtain ⟨r₁, -, hok, -⟩ | ⟨f, herror, hpiece⟩ := hlast.readPiece_cases _
      · rw [hok] at read
        cases read
      · rw [herror] at read
        cases read
        rw [hnext]
        exact hpiece
    | unfinished undecided atEnd read =>
      refine ⟨k, _, _, hdecode, hlast.verdict_eq_none_iff.1 undecided, ?_⟩
      -- no piece is empty, so this end is the one behind all pieces
      cases left with
      | nil =>
        rw [hnext]
        exact finish_of_readEnd read
      | cons piece left =>
        have hmem : piece ∈ pieces := List.mem_of_mem_drop (hleft ▸ List.mem_cons_self)
        exact absurd atEnd (hne piece hmem)
  · rintro ⟨k, d, text, hdecode, hundecided, hrefused⟩
    obtain ⟨r', hread, rfl, hlast⟩ := hstart.exists_reading hdecode
    have hv := hlast.verdict_eq_none_iff.2 hundecided
    have hall := readPieces_append (fun p hp => hne p (List.mem_of_mem_take hp)) hread .endOfFile
      (pieces.drop k)
    rw [List.take_append_drop] at hall
    rw [hall]
    have hnext : pieces[k]? = (pieces.drop k).head? := List.head?_drop.symm
    cases hleft : pieces.drop k with
    | nil =>
      rw [hnext, hleft] at hrefused
      have atEnd : AtEnd .endOfFile [] := rfl
      exact (Halts.unfinished hv atEnd (readEnd_of_error hrefused)).readPieces_eq
    | cons piece left =>
      rw [hnext, hleft] at hrefused
      have hmem : piece ∈ pieces := List.mem_of_mem_drop (hleft ▸ List.mem_cons_self)
      exact (Halts.undecodable hv (hne piece hmem) (readPiece_of_error hrefused)).readPieces_eq

end Reading

end SchemaGate.Detection
