import SchemaGate.Proofs.Detection.Reads

/-! Streams are closed behind detection.

    There are many ways out of detection: no reader of lines can be opened, the stream is closed already,
    a line decides, the lines run out, bytes do not decode, or a read fails. Using a stream closes it
    whatever comes of the use, and one that cannot be used is closed where that is found out
    (`detect_cases`). What comes of the use is a mode that lines decide for, or none, or a failure; and
    the system refuses only where reads come to one that fails (`closed_on_every_exit`). -/

namespace SchemaGate

namespace Encoding

/-- A name is looked up first, then it has to be that of a text encoding. -/
theorem find_eq (name : Text) :
    find name = (lookup name).bind fun standard =>
      match ofStandardName? standard with
      | some encoding => .ok encoding
      | none => .error (.notTextEncoding name) := rfl

theorem lookup_cases {name : Text} {f : Failure} (h : lookup name = .error f) :
    f = .nullCharacter ∨ f = .unencodable ∨ f = .unknownEncoding name := by
  rw [lookup] at h
  split at h
  · cases h
    exact .inl rfl
  · split at h
    · cases h
      exact .inr (.inl rfl)
    · split at h
      · cases h
      · cases h
        exact .inr (.inr rfl)

/-- A name is no name of an encoding, or it is one of an encoding that is none of text. -/
theorem find_cases {name : Text} {f : Failure} (h : find name = .error f) :
    lookup name = .error f ∨ f = .notTextEncoding name := by
  rw [find_eq] at h
  cases hl : lookup name with
  | error g =>
    rw [hl] at h
    cases h
    exact .inl rfl
  | ok standard =>
    simp only [hl, Except.bind] at h
    split at h
    · cases h
    · cases h
      exact .inr rfl

/-- It is not the system that refuses a name. -/
theorem isSystem_of_find {name : Text} {f : Failure} (h : find name = .error f) :
    f.isSystem = false := by
  rcases find_cases h with hlookup | rfl
  · rcases lookup_cases hlookup with rfl | rfl | rfl <;> rfl
  · rfl

end Encoding

namespace Detection

/-- The reads from a source come to one that fails: its bytes can be read, all its pieces are read, and
no line in them decides. -/
def ReadFails (d : Detector) (source : Source) (message : Text) : Prop :=
  ∃ pieces encoding, source = ⟨.binary pieces (.failure message), false⟩ ∧
    Encoding.find d.encoding = .ok encoding ∧ RunsOutIn d.codecs pieces encoding

/-! ### Ways out -/

namespace Source

theorem close_of_closed {s : Source} (h : s.closed = true) : s.close = s := by
  cases s
  cases h
  rfl

/-- Whatever comes of using a stream, it is closed behind it. -/
theorem source_use (s : Source) (result : Except Failure Mode × List Record) :
    (s.use result).source = s.close := by
  cases h : s.closed with
  | true => simp [use, h, close_of_closed h]
  | false => simp [use, h]

/-- A reader of lines is opened, or the stream is closed and it is not the system that refused. -/
theorem lineReader_cases (encodingName : Text) (s : Source) :
    (∃ reader, s.lineReader encodingName = (.ok reader, s)) ∨
      ∃ f, f.isSystem = false ∧ s.lineReader encodingName = (.error f, s.close) := by
  rw [lineReader]
  split
  · exact .inl ⟨_, rfl⟩
  · cases hfind : Encoding.find encodingName with
    | error f => exact .inr ⟨f, Encoding.isSystem_of_find hfind, rfl⟩
    | ok encoding =>
      cases s.closed with
      | true => exact .inr ⟨.closedStream, rfl, rfl⟩
      | false => exact .inl ⟨_, rfl⟩

/-- Bytes are read from streams of bytes only, as text of the encoding that was asked for. -/
theorem lineReader_eq_ofPieces {encodingName : Text} {s : Source} {encoding : TextEncoding}
    {pieces : List Bytes} {ending : StreamEnd}
    (h : s.lineReader encodingName = (.ok (.ofPieces encoding pieces ending), s)) :
    s.stream = .binary pieces ending ∧ Encoding.find encodingName = .ok encoding := by
  rw [lineReader] at h
  split at h
  · cases h
  · next hstream =>
    split at h
    · cases h
    · next hfind =>
      split at h
      · cases h
      · cases h
        exact ⟨hstream, hfind⟩

end Source

/-- Detection leaves a closed stream behind. Either the stream was not used, and it was not the system
that refused, or it was open and the outcome is that of the lines. -/
theorem detect_cases (d : Detector) (source : Source) :
    (detect d source).source = source.close ∧
      ((∃ f, f.isSystem = false ∧ (detect d source).outcome = .error f) ∨
        ∃ reader, source.closed = false ∧ source.lineReader d.encoding = (.ok reader, source) ∧
          (detect d source).outcome = (reader.detect d).1) := by
  rw [detect]
  obtain ⟨reader, hopen⟩ | ⟨f, hf, hopen⟩ := source.lineReader_cases d.encoding
  · simp only [hopen]
    refine ⟨source.source_use _, ?_⟩
    cases hclosed : source.closed with
    | true => exact .inl ⟨.closedStream, rfl, by simp [Source.use, hclosed]⟩
    | false => exact .inr ⟨reader, rfl, rfl, by simp [Source.use, hclosed]⟩
  · simp only [hopen]
    exact ⟨trivial, .inl ⟨f, hf, rfl⟩⟩

/-! ### Outcomes -/

/-- Lines decide for a mode, or bytes that do not decode leave it to the caller. -/
theorem mode_of_lineReader {d : Detector} {reader : LineReader} {m : Mode}
    (h : (reader.detect d).1 = .ok m) : m = .dtd ∨ m = .xsd ∨ m = .auto := by
  cases reader with
  | ofText text =>
    cases h
    exact (modeOfLines_cases _).imp And.right fun hx => .inl hx.2
  | ofPieces encoding pieces ending =>
    rw [LineReader.detect] at h
    split at h
    · next hm =>
      cases h
      exact (mode_of_readPiecesIn hm).imp_right .inl
    · cases h
      exact .inr (.inr rfl)
    · cases h
    · cases h

/-- It is the system that refuses only if a read of bytes fails. -/
theorem lineReader_system_iff {d : Detector} {reader : LineReader} {fault : SystemFault}
    {message : Text} :
    (reader.detect d).1 = .error (.system fault message) ↔
      fault = .other ∧ ∃ encoding pieces ending, reader = .ofPieces encoding pieces ending ∧
        readPiecesIn d.codecs encoding ending pieces = .error (.readFailed message) := by
  cases reader with
  | ofText text => simp [LineReader.detect]
  | ofPieces encoding pieces ending =>
    rw [LineReader.detect]
    split
    · next hread => simp [hread]
    · next hread => simp [hread]
    · next hread => simp [hread]
    · next message' hread =>
      constructor
      · intro h
        cases h
        exact ⟨rfl, encoding, pieces, ending, rfl, hread⟩
      · rintro ⟨rfl, _, _, _, heq, hread'⟩
        cases heq
        rw [hread] at hread'
        cases hread'
        rfl

/-- Detection closes the stream on every way out. What it answers is a mode of the three that it knows,
and the system refuses exactly if the reads come to one that fails. -/
theorem closed_on_every_exit (d : Detector) (source : Source) :
    let found := detect d source
    (found.source.closed = true ∧ found.source.stream = source.stream) ∧
      (∀ m, found.outcome = .ok m → m = .dtd ∨ m = .xsd ∨ m = .auto) ∧
      ∀ fault message, found.outcome = .error (.system fault message) ↔
        fault = .other ∧ ReadFails d source message := by
  intro found
  obtain ⟨hclose, hway⟩ := detect_cases d source
  refine ⟨by simp [found, hclose, Source.close], ?_, fun fault message => ⟨fun hsys => ?_, ?_⟩⟩
  · intro m hm
    obtain ⟨f, -, hf⟩ | ⟨reader, -, -, hreader⟩ := hway
    · simp [found, hf] at hm
    · exact mode_of_lineReader (hreader ▸ hm)
  · obtain ⟨f, hnot, hf⟩ | ⟨reader, hopen, hline, hreader⟩ := hway
    · rw [hf] at hsys
      cases hsys
      cases hnot
    · rw [hreader] at hsys
      obtain ⟨rfl, encoding, pieces, ending, rfl, hread⟩ := lineReader_system_iff.1 hsys
      obtain ⟨hstream, hfind⟩ := Source.lineReader_eq_ofPieces hline
      obtain ⟨rfl, hout⟩ := readPiecesIn_eq_readFailed_iff.1 hread
      exact ⟨rfl, pieces, encoding, by cases source; simp_all, hfind, hout⟩
  · rintro ⟨rfl, pieces, encoding, rfl, hfind, hout⟩
    have hread : readPiecesIn d.codecs encoding (.failure message) pieces =
        .error (.readFailed message) := readPiecesIn_eq_readFailed_iff.2 ⟨rfl, hout⟩
    simp [found, detect, Source.lineReader, Source.use, LineReader.detect, hfind, hread]

end Detection

end SchemaGate
