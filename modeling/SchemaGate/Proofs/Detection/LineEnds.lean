import SchemaGate.Proofs.Detection.Chunks
import SchemaGate.Proofs.Detection.CommentBlock
import SchemaGate.Proofs.Text.Stretches

/-! Detection apart from line ends.

    An empty line leaves the scan as it is, so of the lines of a document only the stretches between
    its line ends matter (`modeOfText_of_returnsEndLines`). Bytes are read with all line ends made newlines,
    which keeps the stretches, and a decoded text as it is, which keeps them where a carriage return
    stands at the ends of lines only. Hence the mode does not depend on which line ends a document has
    (`mode_of_any_lineEnds`). -/

namespace SchemaGate.Detection

open Text (Respelled ReturnsEndLines isEndMark stretches)

/-! ### Empty lines -/

namespace Scan

theorem readLine_nil (s : Scan) : s.readLine [] = s := by
  obtain ⟨inside, _ | m⟩ := s
  · have hread : Reads inside [] (some []) inside := .unmarked (by decide) (by decide)
    rw [readLine_of_reads hread, lineVerdict, hasText]
    simp [Text.isBlank]
  · exact readLine_of_verdict rfl []

theorem readLines_filter (s : Scan) (lines : List Text) :
    s.readLines (lines.filter (!·.isEmpty)) = s.readLines lines := by
  induction lines generalizing s with
  | nil => rfl
  | cons line lines ih =>
    cases line with
    | nil =>
      rw [readLines_cons, readLine_nil]
      exact ih s
    | cons c line => exact ih (s.readLine (c :: line))

end Scan

theorem modeOfLines_filter (lines : List Text) :
    modeOfLines (lines.filter (!·.isEmpty)) = modeOfLines lines := by
  rw [modeOfLines, Scan.readLines_filter, modeOfLines]

/-! ### The lines of a document and its stretches -/

theorem cutLines_of_not_mem {a : Text} (h : .char '\n' ∉ a) : cutLines a = ([], a) := by
  induction a with
  | nil => rfl
  | cons c a ih =>
    rw [List.mem_cons, not_or] at h
    simp [cutLines, ih h.2, Ne.symm h.1]

theorem documentLines_newline {a : Text} (h : .char '\n' ∉ a) (b : Text) :
    documentLines (a ++ .char '\n' :: b) = dropLineEnd a :: documentLines b := by
  rw [documentLines_append, documentLines_eq, rawLines, cutLines_append, cutLines_of_not_mem h]
  rfl

theorem documentLines_of_not_mem {a : Text} (h : .char '\n' ∉ a) :
    documentLines a = ([a].filter (!·.isEmpty)).map dropLineEnd := by
  rw [documentLines_eq, rawLines, cutLines_of_not_mem h]
  cases a <;> rfl

/-- What is left of a line does not end with a character of line ends. -/
theorem isEndMark_getLast?_dropLineEnd {line : Text} {c : CodePoint}
    (h : (dropLineEnd line).getLast? = some c) : isEndMark c = false := by
  have hhead := List.head?_dropWhile_not isEndMark line.reverse
  rw [dropLineEnd, Text.dropEnd, List.getLast?_reverse] at h
  change (line.reverse.dropWhile isEndMark).head? = some c at h
  rwa [h] at hhead

/-- Where carriage returns only end lines, none is left of a line. -/
theorem isEndMark_of_mem_dropLineEnd {line : Text} (hn : .char '\n' ∉ line)
    (hr : ReturnsEndLines line) : ∀ c ∈ dropLineEnd line, isEndMark c = false := by
  intro c hc
  obtain ⟨ends, hline, -⟩ := exists_dropped line
  have hcn : c ≠ .char '\n' := by
    rintro rfl
    exact hn (by rw [hline]; exact List.mem_append_left _ hc)
  have hcr : c ≠ .char '\r' := by
    rintro rfl
    obtain ⟨x, y, hxy⟩ := List.append_of_mem hc
    rw [hline, hxy, List.append_assoc] at hr hn
    have hrun : ∀ d ∈ y ++ ends, d = .char '\r' :=
      hr.of_append.eq_return fun hm => hn (List.mem_append_right _ (List.mem_cons_of_mem _ hm))
    -- so what is left of the line would end with a carriage return
    obtain ⟨d, hlast⟩ :=
      Option.isSome_iff_exists.1 (List.getLast?_isSome.2 (List.cons_ne_nil (.char '\r') y))
    have hplain : isEndMark d = false := by
      refine @isEndMark_getLast?_dropLineEnd line d ?_
      rw [hxy, List.getLast?_append, hlast, Option.some_or]
    rcases List.mem_cons.1 (List.mem_of_getLast? hlast) with rfl | hmem
    · cases hplain
    · rw [hrun d (List.mem_append_left _ hmem)] at hplain
      cases hplain
  simp [isEndMark, hcn, hcr]

theorem stretches_of_line {line : Text} (hn : .char '\n' ∉ line) (hr : ReturnsEndLines line) :
    line.stretches = [dropLineEnd line].filter (!·.isEmpty) := by
  obtain ⟨ends, hline, hends⟩ := exists_dropped line
  have hmarks : ∀ c ∈ ends, isEndMark c = true := fun c hc => by simpa [isEndMark] using hends c hc
  rw [← Text.stretches_of_plain (isEndMark_of_mem_dropLineEnd hn hr)]
  conv => lhs; rw [hline]
  exact Text.stretches_append_marks hmarks _

/-- Where carriage returns only end lines, the lines that hold anything are the stretches. -/
theorem filter_documentLines {t : Text} (hr : ReturnsEndLines t) :
    (documentLines t).filter (!·.isEmpty) = t.stretches := by
  by_cases hn : .char '\n' ∈ t
  · obtain ⟨line, rest, rfl, hline⟩ := List.eq_append_cons_of_mem hn
    have hrest : ReturnsEndLines rest := hr.of_append.2
    have hlt : rest.length < (line ++ .char '\n' :: rest).length := by
      rw [List.length_append, List.length_cons]
      omega
    rw [documentLines_newline hline, Text.stretches_append_cons rfl, stretches_of_line hline hr.of_newline,
      ← filter_documentLines hrest, ← List.filter_append]
    rfl
  · rw [documentLines_of_not_mem hn, stretches_of_line hn hr]
    cases t <;> rfl
termination_by t.length

/-! ### Modes -/

theorem modeOfText_of_returnsEndLines {t : Text} (h : ReturnsEndLines t) :
    modeOfText t = modeOfLines t.stretches := by
  rw [modeOfText, ← modeOfLines_filter, filter_documentLines h]

/-- With all line ends made newlines a text has its mode from the same stretches. -/
theorem modeOfText_joinNewlines (t : Text) : modeOfText t.joinNewlines = modeOfLines t.stretches := by
  rw [modeOfText_of_returnsEndLines (Text.returnsEndLines_of_not_mem (Text.return_not_mem_joinNewlines t)),
    Text.stretches_joinNewlines]

theorem modeOfLines_ne_auto (lines : List Text) : modeOfLines lines ≠ .auto := by
  rcases modeOfLines_cases lines with ⟨-, hm⟩ | ⟨-, hm⟩ <;> simp [hm]

theorem detectBytes_of_encode {d : Detector} (hname : Encoding.find d.encoding = .ok (.known .utf8))
    (cs : List Char) :
    (detectBytes d (Utf8.encode cs)).outcome = .ok (modeOfLines (textOf cs).stretches) := by
  rw [detectBytes_outcome_eq, chunkOutcome_of_encode hname (fun _ hm => (mem_cutPieces hm).1)
    (flatten_cutPieces _), modeOfText_joinNewlines]

/-- The mode of bytes in UTF-8 does not depend on which line ends are written for the newlines of
their text. A decoded text whose carriage returns only end lines has the mode of its bytes. -/
theorem mode_of_any_lineEnds {d : Detector} (hname : Encoding.find d.encoding = .ok (.known .utf8)) :
    (∀ cs cs', Respelled (textOf cs) (textOf cs') → ∃ m, m ≠ .auto ∧
      (detectBytes d (Utf8.encode cs)).outcome = .ok m ∧
      (detectBytes d (Utf8.encode cs')).outcome = .ok m) ∧
    ∀ cs, ReturnsEndLines (textOf cs) → ∃ m, m ≠ .auto ∧
      textOutcome d (textOf cs) = .ok m ∧ (detectBytes d (Utf8.encode cs)).outcome = .ok m := by
  refine ⟨fun cs cs' h => ?_, fun cs h => ?_⟩
  · refine ⟨_, modeOfLines_ne_auto _, detectBytes_of_encode hname cs, ?_⟩
    rw [detectBytes_of_encode hname, h.stretches_eq]
  · refine ⟨_, modeOfLines_ne_auto _, ?_, detectBytes_of_encode hname cs⟩
    rw [← modeOfText_of_returnsEndLines h]
    exact textOutcome_eq d (textOf cs)

/-- Two empty lines in front of a tag. -/
def twoNewlines : List Char := ['\n', '\n', '<', 'a', '>']

/-- The same text once the first newline is a CR: the two line ends have become one. -/
def oneLineEnd : List Char := ['\r', '\n', '<', 'a', '>']

theorem mode_of_any_lineEnds_oneLineEnd :
    (Respelled (textOf twoNewlines) (textOf oneLineEnd) ∧ ∃ m, m ≠ .auto ∧
      (detectBytes .utf8 (Utf8.encode twoNewlines)).outcome = .ok m ∧
      (detectBytes .utf8 (Utf8.encode oneLineEnd)).outcome = .ok m) ∧
    ReturnsEndLines (textOf ['a', '\r', '\r', '\n', '\r']) ∧ ∃ m, m ≠ .auto ∧
      textOutcome .utf8 (textOf ['a', '\r', '\r', '\n', '\r']) = .ok m ∧
      (detectBytes .utf8 (Utf8.encode ['a', '\r', '\r', '\n', '\r'])).outcome = .ok m := by
  obtain ⟨hrespelled, hreturns⟩ :=
    mode_of_any_lineEnds (show Encoding.find Detector.utf8.encoding = .ok (.known .utf8) from rfl)
  have htail : Respelled (textOf ['<', 'a', '>']) (textOf ['<', 'a', '>']) :=
    .other (by decide) (.other (by decide) (.other (by decide) .nil))
  have hone : Respelled (textOf twoNewlines) (textOf oneLineEnd) :=
    @Respelled.newline [.char '\r'] _ _ (by decide) (@Respelled.newline [.char '\n'] _ _ (by decide) htail)
  have hends : ReturnsEndLines (textOf ['a', '\r', '\r', '\n', '\r']) := by decide
  exact ⟨⟨hone, hrespelled _ _ hone⟩, hends, hreturns _ hends⟩

end SchemaGate.Detection
