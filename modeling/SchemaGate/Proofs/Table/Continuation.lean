import SchemaGate.Proofs.Table.Written

/-! Continued lines.

    A line may be cut anywhere behind its first character that is no blank: a backslash and a line end
    are put in, and blanks in front of what is left of the line. The second half is joined to the first
    as it stands (`joinLines_cut`), even where it looks like a comment or is cut itself, and so the
    table stays what it is (`parse_continued`). Where the cut line starts, nothing may be left to be
    continued (`Complete`). Comments leave nothing, with or without a backslash at their ends. -/

namespace SchemaGate.Table

/-- What stands in a cut: a backslash, a line end and blanks. -/
def continuation (gap : Text) : Text := .char '\\' :: .char '\n' :: gap

/-- What lines leave to be continued, given what the lines before have left. -/
def leftOver : Text → List Text → Text
  | pending, [] => pending
  | pending, raw :: rest =>
    let line := if pending.isEmpty then raw else raw.trimLeft
    if pending.isEmpty && isComment line then leftOver [] rest
    else if isContinued line then leftOver (pending ++ line.dropLast) rest
    else leftOver [] rest

/-- `Complete text`: the last line has ended, and no line is to be continued. -/
structure Complete (text : Text) : Prop where
  endsLine : text.EndsLine
  leftOver_eq : leftOver [] text.splitLines = []

/-- `StartsEntry line`: there is a character that is no blank, and the first of them is the mark of no
comment. -/
def StartsEntry (line : Text) : Prop := ∃ c rest, line.trimLeft = c :: rest ∧ isCommentMark c = false

/-! ### Backslashes at the end -/

/-- Backslashes in pairs do not change what those behind them do. -/
theorem isContinued_append {a : Text} (h : isContinued a = false) (b : Text) :
    isContinued (a ++ b) = isContinued b := by
  have heven : (a.reverse.takeWhile (· = .char '\\')).length % 2 ≠ 1 := of_decide_eq_false h
  rw [isContinued, isContinued, List.reverse_append, List.takeWhile_append]
  split
  · next hall =>
    rw [List.length_append, ← hall]
    exact decide_eq_decide.2 (by omega)
  · rfl

theorem isContinued_backslash {a : Text} (h : isContinued a = false) :
    isContinued (a ++ [.char '\\']) = true := by
  rw [isContinued_append h]
  rfl

theorem ne_nil_of_isContinued {line : Text} (h : isContinued line = true) : line ≠ [] := by
  rintro rfl
  cases h

/-- Blanks in front of a line do not change what is at its end. -/
theorem isContinued_trimLeft (line : Text) : isContinued line.trimLeft = isContinued line := by
  have hblanks : isContinued (line.takeWhile CodePoint.isBlank) = false := by
    cases h : (line.takeWhile CodePoint.isBlank).reverse with
    | nil => rw [isContinued, h]; rfl
    | cons c rest =>
      have hc : c.isBlank = true := List.all_eq_true.1 List.all_takeWhile c
        (List.mem_reverse.1 (h ▸ List.mem_cons_self))
      have hne : c ≠ .char '\\' := by
        rintro rfl
        cases hc
      rw [isContinued, h, List.takeWhile_cons_of_neg (by simpa using hne)]
      rfl
  conv => rhs; rw [← List.takeWhile_append_dropWhile (p := CodePoint.isBlank) (l := line)]
  exact (isContinued_append hblanks _).symm

/-! ### Joined lines -/

/-- Of the lines in front only what they leave reaches into the lines behind. -/
theorem exists_joined (pending : Text) (lines : List Text) :
    ∃ done, ∀ more, joinLines pending (lines ++ more) = done ++ joinLines (leftOver pending lines) more := by
  fun_induction leftOver pending lines with
  | case1 pending => exact ⟨[], fun _ => rfl⟩
  | case2 pending raw rest line hcomment ih =>
    obtain ⟨done, ih⟩ := ih
    refine ⟨line :: done, fun more => ?_⟩
    rw [List.cons_append, joinLines, if_pos hcomment, ih, List.cons_append]
  | case3 pending raw rest line hcomment hc ih =>
    obtain ⟨done, ih⟩ := ih
    refine ⟨done, fun more => ?_⟩
    rw [List.cons_append, joinLines, if_neg hcomment, if_pos hc, ih]
  | case4 pending raw rest line hcomment hc ih =>
    obtain ⟨done, ih⟩ := ih
    refine ⟨(pending ++ line) :: done, fun more => ?_⟩
    rw [List.cons_append, joinLines, if_neg hcomment, if_neg hc, ih, List.cons_append]

/-- Where nothing is left to be continued, the lines behind are joined among themselves. -/
theorem joinLines_append {pending : Text} {lines : List Text} (h : leftOver pending lines = [])
    (more : List Text) :
    joinLines pending (lines ++ more) = joinLines pending lines ++ joinLines [] more := by
  obtain ⟨done, hdone⟩ := exists_joined pending lines
  rw [h] at hdone
  have hlines := hdone []
  rw [List.append_nil, joinLines, List.isEmpty_nil, if_pos rfl, List.append_nil] at hlines
  rw [hdone, hlines]

theorem leftOver_append (pending : Text) (lines more : List Text) :
    leftOver pending (lines ++ more) = leftOver (leftOver pending lines) more := by
  fun_induction leftOver pending lines with
  | case1 pending => rfl
  | case2 pending raw rest line hcomment ih => rw [List.cons_append, leftOver, if_pos hcomment, ih]
  | case3 pending raw rest line hcomment hc ih =>
    rw [List.cons_append, leftOver, if_neg hcomment, if_pos hc, ih]
  | case4 pending raw rest line hcomment hc ih =>
    rw [List.cons_append, leftOver, if_neg hcomment, if_neg hc, ih]

/-- A line without a backslash to continue it leaves nothing, whatever was to be continued. -/
theorem leftOver_line (pending : Text) {line : Text} (h : isContinued line = false) :
    leftOver pending [line] = [] := by
  have hline : isContinued (if pending.isEmpty then line else line.trimLeft) = false := by
    split
    · exact h
    · rw [isContinued_trimLeft, h]
  simp only [leftOver, hline, Bool.false_eq_true, if_false, ite_self]

/-! ### Texts with nothing left to be continued -/

/-- Behind an ended line that is not continued a line of its own starts. -/
theorem complete_of_last_line {text : Text} (h : text.EndsLine)
    (hlast : ∀ line ∈ text.splitLines.getLast?, isContinued line = false) : Complete text where
  endsLine := h
  leftOver_eq := by
    rcases List.eq_nil_or_concat text.splitLines with hnil | ⟨lines, line, hlines⟩
    · rw [hnil, leftOver]
    · rw [hlines, List.concat_eq_append, leftOver_append]
      exact leftOver_line _ (hlast line (by simp [hlines]))

theorem complete_nil : Complete [] := complete_of_last_line nofun (by simp [Text.splitLines])

theorem ne_nil_of_isComment {line : Text} (h : isComment line = true) : line ≠ [] := by
  rintro rfl
  cases h

/-- A comment is not continued, with or without a backslash at its end. -/
theorem Complete.append_comment {before line ending : Text} (h : Complete before) (hc : isComment line = true)
    (hline : ∀ c ∈ line, c.isLineEnd = false) (he : ending ∈ Text.lineEnds) :
    Complete (before ++ (line ++ ending)) := by
  have hne := ne_nil_of_isComment hc
  have hlines : Text.splitLines (line ++ ending) = [line] := by
    have hsplit := @Text.splitLines_append _ _ [] hline he nofun
    rwa [List.append_nil, Text.splitLines] at hsplit
  constructor
  · rw [← List.append_assoc]
    exact Text.endsLine_append he _
  · rw [h.endsLine.splitLines_append (Text.head?_append_ne hline hne ending), hlines, leftOver_append,
      h.leftOver_eq]
    simp only [leftOver, List.isEmpty_nil, hc, Bool.and_self, if_true]

/-! ### Entries on several lines -/

theorem StartsEntry.append {a : Text} (h : StartsEntry a) (b : Text) : StartsEntry (a ++ b) := by
  obtain ⟨c, rest, ha, hc⟩ := h
  have hdrop : a.dropWhile CodePoint.isBlank = c :: rest := ha
  refine ⟨c, rest ++ b, ?_, hc⟩
  rw [Text.trimLeft, List.dropWhile_append, hdrop]
  rfl

theorem StartsEntry.isComment_eq_false {line : Text} (h : StartsEntry line) : isComment line = false := by
  obtain ⟨c, rest, hline, hc⟩ := h
  rw [isComment, hline]
  exact hc

theorem StartsEntry.ne_nil {line : Text} (h : StartsEntry line) : line ≠ [] := by
  rintro rfl
  obtain ⟨c, rest, hline, -⟩ := h
  cases hline

theorem trimLeft_of_head {b : Text} (hb : ∀ c ∈ b.head?, c.isBlank = false) : b.trimLeft = b := by
  cases b with
  | nil => rfl
  | cons c b => exact trimLeft_cons (hb c rfl) b

/-- A cut line and the line behind it are joined to the line they were. -/
theorem joinLines_cut {a b gap : Text} (ha : StartsEntry a) (heven : isContinued a = false) (hgap : IsGap gap)
    (hb : b.trimLeft = b) (rest : List Text) :
    joinLines [] ((a ++ [.char '\\']) :: (gap ++ b) :: rest) = joinLines [] ((a ++ b) :: rest) := by
  -- the backslash leaves `a`, which is not empty, so the next line is trimmed and is no comment
  have hfirst : joinLines [] ((a ++ [.char '\\']) :: (gap ++ b) :: rest) =
      joinLines a ((gap ++ b) :: rest) := by
    simp [joinLines, (ha.append _).isComment_eq_false, isContinued_backslash heven]
  have hpending : a.isEmpty = false := List.isEmpty_eq_false_iff.2 ha.ne_nil
  rw [hfirst]
  simp only [joinLines, hpending, hgap.trimLeft_append, hb, (ha.append b).isComment_eq_false,
    isContinued_append heven, Bool.false_and, Bool.and_false, Bool.false_eq_true, if_false, List.isEmpty_nil,
    if_true, List.nil_append]
  cases hc : isContinued b with
  | true => simp only [if_true, List.dropLast_append_of_ne_nil (ne_nil_of_isContinued hc)]
  | false => rfl

/-! ### Cut lines in a table -/

theorem takeLine_newline (rest : Text) : Text.takeLine (.char '\n' :: rest) = ([], rest) := rfl

theorem splitLines_cut {a gap : Text} (ha : ∀ c ∈ a, c.isLineEnd = false) (rest : Text) :
    Text.splitLines (a ++ (continuation gap ++ rest)) = (a ++ [.char '\\']) :: Text.splitLines (gap ++ rest) := by
  have hline : ∀ c ∈ a ++ [.char '\\'], c.isLineEnd = false :=
    List.forall_mem_append.2 ⟨ha, List.forall_mem_singleton.2 rfl⟩
  have hcut : a ++ (continuation gap ++ rest) = a ++ [.char '\\'] ++ (.char '\n' :: (gap ++ rest)) := by
    simp [continuation]
  rw [hcut, Text.splitLines_line_append hline (by rintro _ ⟨⟩; rfl) (by simp), takeLine_newline]

/-- The logical lines of a table do not show where a line was cut. -/
theorem joinLines_splitLines_cut {a b gap rest : Text} (ha : StartsEntry a) (heven : isContinued a = false)
    (hb : ∀ c ∈ b.head?, c.isBlank = false) (hline : ∀ c ∈ a ++ b, c.isLineEnd = false) (hgap : IsGap gap)
    (hrest : ∀ c ∈ rest.head?, c.isLineEnd = true) :
    joinLines [] (Text.splitLines (a ++ (continuation gap ++ (b ++ rest)))) =
      joinLines [] (Text.splitLines (a ++ (b ++ rest))) := by
  obtain ⟨hla, hlb⟩ := List.forall_mem_append.1 hline
  have hwhole : Text.splitLines (a ++ (b ++ rest)) = (a ++ b) :: Text.splitLines (Text.takeLine rest).2 := by
    rw [← List.append_assoc]
    exact Text.splitLines_line_append hline hrest (by simp [ha.ne_nil])
  rw [splitLines_cut hla, hwhole]
  by_cases hnil : gap ++ (b ++ rest) = []
  · -- the backslash is at the end of the table, and nothing is there to be joined
    simp only [List.append_eq_nil_iff] at hnil
    obtain ⟨rfl, rfl, rfl⟩ := hnil
    simp [joinLines, Text.splitLines, Text.takeLine, (ha.append _).isComment_eq_false, ha.isComment_eq_false,
      isContinued_backslash heven, heven, ha.ne_nil]
  · have hgapLine : ∀ c ∈ gap ++ b, c.isLineEnd = false :=
      List.forall_mem_append.2 ⟨fun c hc => (hgap c hc).2, hlb⟩
    rw [← List.append_assoc] at hnil ⊢
    rw [Text.splitLines_line_append hgapLine hrest hnil]
    exact joinLines_cut ha heven hgap (trimLeft_of_head hb) _

/-- A table is read as the same whether a line of it is written whole or cut in two. -/
theorem parse_continued {before a b gap rest : Text} (hbefore : Complete before) (ha : StartsEntry a)
    (heven : isContinued a = false) (hb : ∀ c ∈ b.head?, c.isBlank = false)
    (hline : ∀ c ∈ a ++ b, c.isLineEnd = false) (hgap : IsGap gap)
    (hrest : ∀ c ∈ rest.head?, c.isLineEnd = true) :
    parse (before ++ (a ++ (continuation gap ++ (b ++ rest)))) = parse (before ++ (a ++ (b ++ rest))) := by
  -- nothing of the lines in front reaches into the line that is cut
  have hhead := Text.head?_append_ne (List.forall_mem_append.1 hline).1 ha.ne_nil
  have hlogical (t : Text) : logicalLines (before ++ (a ++ t)) =
      logicalLines before ++ joinLines [] (Text.splitLines (a ++ t)) := by
    rw [logicalLines, hbefore.endsLine.splitLines_append (hhead t), joinLines_append hbefore.leftOver_eq,
      logicalLines]
  rw [parse, hlogical, joinLines_splitLines_cut ha heven hb hline hgap hrest, ← hlogical, parse]

/-- A comment, which is not continued though it ends in a backslash. -/
def commentLine : Text := "#c\\\n"

theorem complete_commentLine : Complete commentLine :=
  @Complete.append_comment [] "#c\\" "\n" complete_nil rfl (by decide) (by decide)

/-- The first half of a value, which ends within an escape. -/
def firstHalf : Text := " k = \\\\\\u00"

/-- The second half, which is continued itself, by a line that looks like a comment. -/
def secondHalf : Text := "e9\\"

def lineBehind : Text := "\r\n #d"

def joinedEntries : Mappings := [("k", "\\é#d")]

theorem parse_continued_escape :
    (Complete commentLine ∧ StartsEntry firstHalf ∧ isContinued firstHalf = false ∧
      (∀ c ∈ secondHalf.head?, c.isBlank = false) ∧ (∀ c ∈ firstHalf ++ secondHalf, c.isLineEnd = false) ∧
      IsGap " \t" ∧ ∀ c ∈ lineBehind.head?, c.isLineEnd = true) ∧
    parse (commentLine ++ (firstHalf ++ (continuation " \t" ++ (secondHalf ++ lineBehind)))) =
      parse (commentLine ++ (firstHalf ++ (secondHalf ++ lineBehind))) ∧
    parse (commentLine ++ (firstHalf ++ (secondHalf ++ lineBehind))) = joinedEntries := by
  have ha : StartsEntry firstHalf := ⟨.char 'k', _, rfl, rfl⟩
  have heven : isContinued firstHalf = false := by decide
  have hb : ∀ c ∈ secondHalf.head?, c.isBlank = false := by decide
  have hline : ∀ c ∈ firstHalf ++ secondHalf, c.isLineEnd = false := by decide
  have hgap : IsGap " \t" := by decide
  have hrest : ∀ c ∈ lineBehind.head?, c.isLineEnd = true := by decide
  exact ⟨⟨complete_commentLine, ha, heven, hb, hline, hgap, hrest⟩,
    parse_continued complete_commentLine ha heven hb hline hgap hrest, by decide +kernel⟩

end SchemaGate.Table
