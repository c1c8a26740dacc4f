import SchemaGate.Proofs.Detection.Arrival

/-! The reads that a stream is asked for.

    Reading pieces makes one read after another (`ReadsTo`) and stops for one of a few reasons (`Halts`):
    a line has decided, a read fails, bytes do not decode, or nothing is left. Every answer is that of a
    reading which such reads lead to (`exists_readsTo`). So what one read preserves holds where the answer
    is given: only lines were scanned (`ReadsTo.scanned`), and lines decide for one of two modes
    (`mode_of_readPieces`). -/

namespace SchemaGate.Detection

variable {δ : Type} [PieceDecoder δ]

/-- Reads lead from a reading to another one and to the pieces that are left. None is made behind a
line that decides; an empty piece is an end of the stream, and is read on from if it completed
something. -/
inductive ReadsTo : Reading δ → List Bytes → Reading δ → List Bytes → Prop
  | refl (r : Reading δ) (pieces : List Bytes) : ReadsTo r pieces r pieces
  | piece {r r₁ r' : Reading δ} {piece : Bytes} {pieces left : List Bytes}
      (undecided : r.scan.verdict = none) (ne_nil : piece ≠ []) (read : r.readPiece piece = .ok r₁)
      (more : ReadsTo r₁ pieces r' left) : ReadsTo r (piece :: pieces) r' left
  | gap {r r₁ r' : Reading δ} {pieces left : List Bytes} (undecided : r.scan.verdict = none)
      (read : r.readEnd = .ok (some r₁)) (more : ReadsTo r₁ pieces r' left) :
      ReadsTo r ([] :: pieces) r' left

/-- Does the next read find an end of the stream? -/
def AtEnd (ending : StreamEnd) : List Bytes → Prop
  | [] => ending = .endOfFile
  | piece :: _ => piece = []

/-- Why a reading goes no further, and what it answers. -/
inductive Halts (ending : StreamEnd) (r : Reading δ) : List Bytes → Except Stop Mode → Prop
  | decided {left : List Bytes} {m : Mode} (verdict : r.scan.verdict = some m) :
      Halts ending r left (.ok m)
  | readFailed {message : Text} (undecided : r.scan.verdict = none) (fails : ending = .failure message) :
      Halts ending r [] (.error (.readFailed message))
  | undecodable {piece : Bytes} {left : List Bytes} {f : DecodeFault} (undecided : r.scan.verdict = none)
      (ne_nil : piece ≠ []) (read : r.readPiece piece = .error f) :
      Halts ending r (piece :: left) (.error (.fault f))
  | unfinished {left : List Bytes} {f : DecodeFault} (undecided : r.scan.verdict = none)
      (atEnd : AtEnd ending left) (read : r.readEnd = .error f) : Halts ending r left (.error (.fault f))
  | finished {left : List Bytes} (undecided : r.scan.verdict = none) (atEnd : AtEnd ending left)
      (read : r.readEnd = .ok none) : Halts ending r left (.ok r.scan.mode)
  | lastLine {last : Reading δ} (undecided : r.scan.verdict = none) (atEnd : AtEnd ending [])
      (read : r.readEnd = .ok (some last)) : Halts ending r [] (.ok last.readUnfinished.scan.mode)

/-! ### The answer of reads -/

theorem Halts.readPieces_eq {ending : StreamEnd} {r : Reading δ} {left : List Bytes}
    {answer : Except Stop Mode} (h : Halts ending r left answer) :
    readPieces r ending left = answer := by
  cases h with
  | decided verdict => exact Reading.readPieces_of_verdict verdict ending left
  | readFailed undecided fails => simp [readPieces, undecided, fails]
  | undecodable undecided ne_nil read => simp [readPieces, undecided, ne_nil, read]
  | lastLine undecided atEnd read =>
    obtain rfl : ending = .endOfFile := atEnd
    simp [readPieces, undecided, read]
  | unfinished undecided atEnd read | finished undecided atEnd read =>
    cases left with
    | nil =>
      obtain rfl : ending = .endOfFile := atEnd
      simp [readPieces, undecided, read]
    | cons piece left =>
      obtain rfl : piece = [] := atEnd
      simp [readPieces, undecided, read]

/-- Reads do not change what is answered in the end. -/
theorem ReadsTo.readPieces_eq {r r' : Reading δ} {pieces left : List Bytes} (h : ReadsTo r pieces r' left)
    (ending : StreamEnd) : readPieces r ending pieces = readPieces r' ending left := by
  induction h with
  | refl => rfl
  | piece undecided ne_nil read more ih => simp [readPieces, undecided, ne_nil, read, ih]
  | gap undecided read more ih => simp [readPieces, undecided, read, ih]

theorem Halts.exists_readsTo {ending : StreamEnd} {r : Reading δ} {pieces : List Bytes}
    {answer : Except Stop Mode} (h : Halts ending r pieces answer) :
    ∃ r' left, ReadsTo r pieces r' left ∧ Halts ending r' left (readPieces r ending pieces) :=
  ⟨r, pieces, .refl _ _, h.readPieces_eq.symm ▸ h⟩

/-- Reading makes reads until it halts. -/
theorem exists_readsTo (r : Reading δ) (ending : StreamEnd) (pieces : List Bytes) :
    ∃ r' left, ReadsTo r pieces r' left ∧ Halts ending r' left (readPieces r ending pieces) := by
  induction pieces generalizing r with
  | nil =>
    cases undecided : r.scan.verdict with
    | some m => exact Halts.exists_readsTo (.decided undecided)
    | none =>
      cases ending with
      | failure message => exact Halts.exists_readsTo (.readFailed undecided rfl)
      | endOfFile =>
        cases read : r.readEnd with
        | error f => exact Halts.exists_readsTo (.unfinished undecided rfl read)
        | ok last =>
          cases last with
          | none => exact Halts.exists_readsTo (.finished undecided rfl read)
          | some last => exact Halts.exists_readsTo (.lastLine undecided rfl read)
  | cons piece pieces ih =>
    -- a read that goes well is followed by those that the rest of the pieces is read with
    have hnext : ∀ next, ReadsTo r (piece :: pieces) next pieces →
        (∀ {r' left}, ReadsTo next pieces r' left → ReadsTo r (piece :: pieces) r' left) →
        ∃ r' left, ReadsTo r (piece :: pieces) r' left ∧
          Halts ending r' left (readPieces r ending (piece :: pieces)) := by
      intro next hread hmore
      obtain ⟨r', left, hreads, hhalts⟩ := ih next
      exact ⟨r', left, hmore hreads, hread.readPieces_eq ending ▸ hhalts⟩
    cases undecided : r.scan.verdict with
    | some m => exact Halts.exists_readsTo (.decided undecided)
    | none =>
      by_cases hp : piece = []
      · subst hp
        cases read : r.readEnd with
        | error f => exact Halts.exists_readsTo (.unfinished undecided rfl read)
        | ok next =>
          cases next with
          | none => exact Halts.exists_readsTo (.finished undecided rfl read)
          | some next => exact hnext next (.gap undecided read (.refl _ _)) (.gap undecided read)
      · cases read : r.readPiece piece with
        | error f => exact Halts.exists_readsTo (.undecodable undecided hp read)
        | ok next =>
          exact hnext next (.piece undecided hp read (.refl _ _)) (.piece undecided hp read)

/-- A read that fails comes behind the reads of all pieces. -/
theorem readPieces_eq_readFailed_iff {r : Reading δ} {ending : StreamEnd} {pieces : List Bytes}
    {message : Text} :
    readPieces r ending pieces = .error (.readFailed message) ↔
      ending = .failure message ∧ ∃ r', ReadsTo r pieces r' [] ∧ r'.scan.verdict = none := by
  constructor
  · intro h
    obtain ⟨r', left, hreads, hhalts⟩ := exists_readsTo r ending pieces
    rw [h] at hhalts
    cases hhalts with
    | readFailed undecided fails => exact ⟨fails, r', hreads, undecided⟩
  · rintro ⟨fails, r', hreads, undecided⟩
    rw [hreads.readPieces_eq, (Halts.readFailed undecided fails).readPieces_eq]

/-! ### What reads preserve -/

/-- What a read of a piece and a read at an end of the stream preserve holds after all reads. -/
theorem ReadsTo.preserve {P : Reading δ → Prop} {r r' : Reading δ} {pieces left : List Bytes}
    (h : ReadsTo r pieces r' left) (hr : P r)
    (hpiece : ∀ r r₁ piece, P r → r.readPiece piece = .ok r₁ → P r₁)
    (hend : ∀ r r₁, P r → r.readEnd = .ok (some r₁) → P r₁) : P r' := by
  induction h with
  | refl => exact hr
  | piece _ _ read _ ih => exact ih (hpiece _ _ _ hr read)
  | gap _ read _ ih => exact ih (hend _ _ hr read)

namespace Reading

/-- What a read at an end of the stream leaves behind, if it completes something. -/
theorem readEnd_eq_some {r r' : Reading δ} (h : r.readEnd = .ok (some r')) :
    ∃ decoder text, PieceDecoder.readEnd r.decoder = .ok (decoder, text) ∧
      ((∃ more, r' = { r with decoder := decoder, heldReturn := false }.readText more) ∨
        r' = { r with decoder := decoder }.readUnfinished) := by
  rw [readEnd] at h
  cases hf : PieceDecoder.readEnd r.decoder with
  | error f => simp [hf] at h
  | ok found =>
    simp only [hf] at h
    refine ⟨found.1, found.2, rfl, ?_⟩
    split at h
    · cases h
      exact .inl ⟨_, rfl⟩
    · split at h
      · cases h
      · cases h
        exact .inr rfl

omit [PieceDecoder δ]

/-- Nothing but lines was scanned. -/
def Scanned (r : Reading δ) : Prop := ∃ lines, r.scan = Scan.start.readLines lines

namespace Scanned

variable {r r' : Reading δ}

theorem start (decoder : δ) : (Reading.start decoder).Scanned := ⟨[], rfl⟩

theorem readLines (h : r.Scanned) (lines : List Text) (hs : r'.scan = r.scan.readLines lines) :
    r'.Scanned := by
  obtain ⟨before, hb⟩ := h
  exact ⟨before ++ lines, by rw [hs, hb, Scan.readLines_append]⟩

theorem readUnfinished (h : r.Scanned) : r.readUnfinished.Scanned := by
  rw [Reading.readUnfinished]
  split
  · exact h
  · exact h.readLines [_] rfl

theorem mode_mem (h : r.Scanned) : r.scan.mode = .dtd ∨ r.scan.mode = .xsd := by
  obtain ⟨lines, hs⟩ := h
  rw [hs]
  exact (modeOfLines_cases lines).imp And.right And.right

theorem readEnd [PieceDecoder δ] (h : r.Scanned) (he : r.readEnd = .ok (some r')) : r'.Scanned := by
  obtain ⟨decoder, text, -, ⟨more, rfl⟩ | rfl⟩ := readEnd_eq_some he
  · exact h.readLines _ rfl
  · exact Scanned.readUnfinished (r := { r with decoder := decoder }) h

end Scanned

end Reading

theorem ReadsTo.scanned {r r' : Reading δ} {pieces left : List Bytes} (h : ReadsTo r pieces r' left)
    (hr : r.Scanned) : r'.Scanned := by
  refine h.preserve hr (fun r r₁ piece hr hp => ?_) fun r r₁ hr he => hr.readEnd he
  obtain ⟨lines, hs⟩ := Reading.scan_of_readPiece hp
  exact hr.readLines _ hs

/-- Reading pieces finds one of the two modes that lines decide for. -/
theorem mode_of_readPieces {r : Reading δ} (h : r.Scanned) {ending : StreamEnd} {pieces : List Bytes}
    {m : Mode} (hm : readPieces r ending pieces = .ok m) : m = .dtd ∨ m = .xsd := by
  obtain ⟨r', left, hreads, hhalts⟩ := exists_readsTo r ending pieces
  have hscanned := hreads.scanned h
  rw [hm] at hhalts
  cases hhalts with
  | decided verdict =>
    have hmode := hscanned.mode_mem
    rwa [Scan.mode, verdict] at hmode
  | finished => exact hscanned.mode_mem
  | lastLine _ _ read => exact (hscanned.readEnd read).readUnfinished.mode_mem

/-! ### Reading in an encoding -/

/-- All pieces are read from the start, and no line in them decides. -/
def RunsOut (decoder : δ) (pieces : List Bytes) : Prop :=
  ∃ r, ReadsTo (Reading.start decoder) pieces r [] ∧ r.scan.verdict = none

/-- All pieces are read in an encoding, and no line in them decides. -/
def RunsOutIn (codecs : Codecs) (pieces : List Bytes) : TextEncoding → Prop
  | .known encoding => RunsOut (Decoder.start encoding) pieces
  | .foreign name => RunsOut (codecs name).start pieces

theorem mode_of_readPiecesIn {codecs : Codecs} {encoding : TextEncoding} {ending : StreamEnd}
    {pieces : List Bytes} {m : Mode} (h : readPiecesIn codecs encoding ending pieces = .ok m) :
    m = .dtd ∨ m = .xsd := by
  cases encoding with
  | known | foreign => exact mode_of_readPieces (.start _) h

theorem readPiecesIn_eq_readFailed_iff {codecs : Codecs} {encoding : TextEncoding} {ending : StreamEnd}
    {pieces : List Bytes} {message : Text} :
    readPiecesIn codecs encoding ending pieces = .error (.readFailed message) ↔
      ending = .failure message ∧ RunsOutIn codecs pieces encoding := by
  cases encoding with
  | known | foreign => exact readPieces_eq_readFailed_iff

end SchemaGate.Detection
