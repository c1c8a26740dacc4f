import SchemaGate.Detection.Stream

/-! The lines of a document.

    A text is the lines that newlines end, each with its newline behind it, and what follows the
    last newline. So each line of a document stands in the text behind the lines before it and their
    newlines (`exists_split_documentLines`), and behind a newline the lines of two texts are those
    of the one and then those of the other (`documentLines_append`). -/

namespace SchemaGate.Detection

/-- The text is empty or ends with a newline. -/
def Terminated (t : Text) : Prop := t = [] ∨ ∃ a, t = a ++ [.char '\n']

theorem cutLines_append (a b : Text) :
    cutLines (a ++ .char '\n' :: b) =
      ((cutLines a).1 ++ (cutLines a).2 :: (cutLines b).1, (cutLines b).2) := by
  induction a with
  | nil => simp [cutLines]
  | cons c a ih =>
    rw [List.cons_append, cutLines, ih, cutLines]
    by_cases hc : c = .char '\n'
    · simp [hc]
    · cases hl : (cutLines a).1 with
      | nil => simp [hc, hl]
      | cons line lines => simp [hc, hl]

/-- The pieces of a text, put together with their newlines, are the text. -/
theorem cutLines_flatten (t : Text) :
    ((cutLines t).1.map (· ++ [.char '\n'])).flatten ++ (cutLines t).2 = t := by
  induction t with
  | nil => rfl
  | cons c t ih =>
    rw [cutLines]
    by_cases hc : c = .char '\n'
    · simp [hc, ih]
    · cases hl : (cutLines t).1 with
      | nil => simpa [hc, hl] using ih
      | cons line lines => simpa [hc, hl] using ih

/-- The lines with the ends that they have in the text, as far as these are dropped. -/
def rawLines (t : Text) : List Text :=
  if (cutLines t).2.isEmpty then (cutLines t).1 else (cutLines t).1 ++ [(cutLines t).2]

theorem documentLines_eq (t : Text) : documentLines t = (rawLines t).map dropLineEnd := rfl

theorem documentLines_append (a b : Text) :
    documentLines (a ++ .char '\n' :: b) = documentLines (a ++ [.char '\n']) ++ documentLines b := by
  simp only [documentLines_eq, rawLines, cutLines_append, cutLines]
  cases hr : (cutLines b).2 with
  | nil => simp
  | cons c r => simp

theorem Terminated.documentLines_append {t : Text} (h : Terminated t) (more : Text) :
    documentLines (t ++ more) = documentLines t ++ documentLines more := by
  rcases h with rfl | ⟨a, rfl⟩
  · rfl
  · rw [List.append_assoc]
    exact Detection.documentLines_append a more

/-- A line is what is left of it without its end, and characters of line ends. -/
theorem exists_dropped (line : Text) :
    ∃ ends, line = dropLineEnd line ++ ends ∧ ∀ c ∈ ends, c = .char '\r' ∨ c = .char '\n' := by
  let p : CodePoint → Bool := fun c => c = .char '\r' || c = .char '\n'
  refine ⟨(line.reverse.takeWhile p).reverse, ?_, fun c hc => ?_⟩
  · rw [dropLineEnd, Text.dropEnd, ← List.reverse_append, List.takeWhile_append_dropWhile,
      List.reverse_reverse]
  · have hp : p c = true := List.all_eq_true.1 List.all_takeWhile c (List.mem_reverse.1 hc)
    simpa [p] using hp

theorem exists_split_rawLines {t raw : Text} {raws rest : List Text}
    (h : rawLines t = raws ++ raw :: rest) :
    ∃ after, t = (raws.map (· ++ [.char '\n'])).flatten ++ (raw ++ after) := by
  have ht := cutLines_flatten t
  rw [rawLines] at h
  have hcut : (∃ last, (cutLines t).1 = raws ++ raw :: last) ∨
      (cutLines t).1 = raws ∧ (cutLines t).2 = raw := by
    split at h
    · exact .inl ⟨rest, h⟩
    · rcases List.eq_nil_or_concat rest with rfl | ⟨front, last, rfl⟩
      · exact .inr (by simpa using List.append_inj' h rfl)
      · refine .inl ⟨front, ?_⟩
        rw [List.concat_eq_append, ← List.cons_append, ← List.append_assoc] at h
        exact (List.append_inj' h rfl).1
  rcases hcut with ⟨last, hcut⟩ | ⟨hcut, hraw⟩
  · refine ⟨.char '\n' :: ((last.map (· ++ [.char '\n'])).flatten ++ (cutLines t).2), ht.symm.trans ?_⟩
    rw [hcut]
    simp
  · exact ⟨[], ht.symm.trans (by rw [hcut, hraw, List.append_nil])⟩

/-- A line of a document stands in its text behind the lines before it, each with its end. -/
theorem exists_split_documentLines {t line : Text} {before after : List Text}
    (h : documentLines t = before ++ line :: after) :
    ∃ (raws : List Text) (rest : Text), raws.map dropLineEnd = before ∧
      t = (raws.map (· ++ [.char '\n'])).flatten ++ (line ++ rest) := by
  rw [documentLines_eq] at h
  obtain ⟨raws, others, hraws, rfl, hothers⟩ := List.map_eq_append_iff.1 h
  obtain ⟨raw, last, rfl, rfl, -⟩ := List.map_eq_cons_iff.1 hothers
  obtain ⟨rest, ht⟩ := exists_split_rawLines hraws
  obtain ⟨ends, hends, -⟩ := exists_dropped raw
  refine ⟨raws, ends ++ rest, rfl, ?_⟩
  rw [← List.append_assoc (dropLineEnd raw), ← hends]
  exact ht

end SchemaGate.Detection
