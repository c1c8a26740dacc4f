import SchemaGate.Proofs.Table.Composition

/-! Where the lines of a table end.

    A comment and a value reach to the end of their line, and more characters end a line than LF and CR
    (`CodePoint.isLineEnd`). What a comment holds behind such a character is read as lines of the table,
    so it changes nothing only if there is no entry in those lines and nothing in them to be continued
    (`addsNothing_iff`). A value ends at the first of these characters
    (`comment_and_value_whole_iff`). -/

namespace SchemaGate.Table

open Association (get? last? update)

/-- `AddsNothing text`: put where a line begins, the text changes nothing of what is read in front of it
and behind it. -/
def AddsNothing (text : Text) : Prop :=
  ∀ before after, Complete before → parse (before ++ (text ++ after)) = parse (before ++ after)

/-- A comment of one line, if the note does not end the line. -/
def comment (note : Text) : Text := .char '#' :: (note ++ [.char '\n'])

/-- What stands behind the first line of a text. -/
def behindLine (text : Text) : Text := (Text.takeLine text).2

/-! ### Texts that change nothing -/

theorem parse_nil : parse [] = [] := by
  rw [parse, logicalLines, Text.splitLines]
  rfl

/-- A comment in front of a key. Behind what is to be continued the two become one line. -/
def commentAndKey : Text := "#\\\nk"

def commentStart : Text := "#\\"

def key : Text := "k"

theorem parse_commentAndKey : parse commentAndKey ≠ [] := by
  decide +kernel

theorem isComment_append {line : Text} (h : line.trimLeft = [] ∨ isComment line = true) (rest : Text) :
    isComment (line ++ (.char '#' :: rest)) = true := by
  rw [isComment, Text.trimLeft, List.dropWhile_append]
  rcases h with h | h
  · have hdrop : line.dropWhile CodePoint.isBlank = [] := h
    rw [hdrop]
    rfl
  · rw [isComment, Text.trimLeft] at h
    cases hdrop : line.dropWhile CodePoint.isBlank with
    | nil => simp [hdrop] at h
    | cons c behind =>
      rw [hdrop] at h
      exact h

/-- A line without an entry is blank or a comment. -/
theorem isComment_of_entry?_eq_none {line : Text} (h : entry? line = none) :
    line.trimLeft = [] ∨ isComment line = true := by
  unfold entry? at h
  rw [isComment]
  cases ht : line.trimLeft with
  | nil => exact .inl rfl
  | cons c rest =>
    rw [ht] at h
    exact .inr (by simpa using h)

theorem entries_eq_nil_of_parse {text : Text} (h : parse text = []) : entries text = [] := by
  cases hentries : entries text with
  | nil => rfl
  | cons e rest =>
    have hkeys := Association.keys_update_nil (entries text)
    rw [← parse_eq_update, h, hentries] at hkeys
    have hmem : e.1 ∈ Association.newKeys [] ((e :: rest).map Prod.fst) :=
      Association.mem_newKeys.2 ⟨List.mem_cons_self, List.not_mem_nil⟩
    rw [← hkeys] at hmem
    cases hmem

/-- A text that has no entry but leaves something to be continued takes the next line away. -/
theorem parse_append_commentAndKey {text : Text} (h : text.EndsLine) (hparse : parse text = [])
    (hleft : leftOver [] text.splitLines ≠ []) : parse (text ++ commentAndKey) = [] := by
  have hlines : Text.splitLines commentAndKey = ([commentStart, key] : List Text) := by decide +kernel
  obtain ⟨done, hdone⟩ := exists_joined [] text.splitLines
  generalize leftOver [] text.splitLines = pending at hdone hleft
  have hpending : pending.isEmpty = false := List.isEmpty_eq_false_iff.2 hleft
  have hend : joinLines pending [] = [pending] := by
    rw [joinLines, hpending]
    rfl
  have hone : joinLines pending [commentStart, key] = [pending ++ .char '#' :: key] := by
    have hstart : commentStart.trimLeft = commentStart ∧ isContinued commentStart = true ∧
        commentStart.dropLast = [.char '#'] := by decide
    have hkey : key.trimLeft = key ∧ isContinued key = false := by decide
    simp [joinLines, hleft, hstart, hkey]
  -- nothing is done before `pending`, and `pending` itself is a comment or blank
  have hentries := entries_eq_nil_of_parse hparse
  rw [entries, logicalLines, ← List.append_nil text.splitLines, hdone, hend, List.filterMap_append,
    List.append_eq_nil_iff] at hentries
  have hcomment : isComment (pending ++ .char '#' :: key) = true := by
    refine isComment_append (isComment_of_entry?_eq_none ?_) key
    simpa using hentries.2
  have hnone : entries (text ++ commentAndKey) = [] := by
    rw [entries, logicalLines, h.splitLines_append (by decide), hlines, hdone, hone, List.filterMap_append,
      hentries.1]
    simp [entry?_of_isComment hcomment]
  rw [parse_eq_update, hnone]
  rfl

/-- A text changes nothing exactly if it has no entry and leaves nothing to be continued. -/
theorem addsNothing_iff {text : Text} (h : text.EndsLine) :
    AddsNothing text ↔ parse text = [] ∧ leftOver [] text.splitLines = [] := by
  constructor
  · intro hadds
    have hparse : parse text = [] := by
      simpa [parse_nil] using hadds [] [] complete_nil
    refine ⟨hparse, ?_⟩
    by_contra hleft
    have hkey := hadds [] commentAndKey complete_nil
    rw [List.nil_append, List.nil_append, parse_append_commentAndKey h hparse hleft] at hkey
    exact parse_commentAndKey hkey.symm
  · rintro ⟨hparse, hleft⟩ before after hbefore
    have htext : Complete text := ⟨h, hleft⟩
    rw [hbefore.parse_append_eq, htext.parse_append_eq, hparse, update_nil_parse, ← hbefore.parse_append_eq]

/-! ### Comments -/

theorem endsLine_comment (note : Text) : (comment note).EndsLine := by
  have happend : comment note = (.char '#' :: note) ++ [.char '\n'] := rfl
  rw [happend]
  exact Text.endsLine_append (by decide) _

/-- Of a comment the first line is no more than a comment, and the others are those behind it. -/
theorem joinLines_comment (note : Text) :
    ∃ line, isComment line = true ∧
      joinLines [] (comment note).splitLines = line :: joinLines [] (behindLine (comment note)).splitLines ∧
      leftOver [] (comment note).splitLines = leftOver [] (behindLine (comment note)).splitLines := by
  have hne : comment note ≠ [] := List.cons_ne_nil _ _
  have hmark : ∀ c ∈ [CodePoint.char '#'], c.isLineEnd = false := by decide
  have htake : (Text.takeLine (comment note)).1 = .char '#' :: (Text.takeLine (note ++ [.char '\n'])).1 :=
    congrArg Prod.fst (Text.takeLine_append hmark _)
  have hcomment : isComment (Text.takeLine (comment note)).1 = true := by
    rw [htake]
    rfl
  refine ⟨_, hcomment, ?_, ?_⟩
  · rw [Text.splitLines_of_ne_nil hne]
    simp [joinLines, hcomment, behindLine]
  · rw [Text.splitLines_of_ne_nil hne]
    simp [leftOver, hcomment, behindLine]

theorem parse_comment (note : Text) : parse (comment note) = parse (behindLine (comment note)) := by
  obtain ⟨line, hcomment, hlines, -⟩ := joinLines_comment note
  have hentries : entries (comment note) = entries (behindLine (comment note)) := by
    rw [entries, logicalLines, hlines, List.filterMap_cons_none (entry?_of_isComment hcomment)]
    rfl
  rw [parse_eq_update, hentries, ← parse_eq_update]

theorem behindLine_comment {note : Text} (h : ∀ c ∈ note, c.isLineEnd = false) :
    behindLine (comment note) = [] := by
  have hline : ∀ c ∈ .char '#' :: note, c.isLineEnd = false := List.forall_mem_cons.2 ⟨rfl, h⟩
  have happend : comment note = (.char '#' :: note) ++ [.char '\n'] := rfl
  rw [behindLine, happend, Text.takeLine_append hline]
  rfl

/-! ### Values -/

theorem unescape_of_not_mem {t : Text} (h : .char '\\' ∉ t) : unescape t = t := by
  induction t with
  | nil => rw [unescape]
  | cons c t ih =>
    rw [List.mem_cons, not_or] at h
    rw [unescape_cons (Ne.symm h.1), ih h.2]

theorem isContinued_of_not_mem {line : Text} (h : .char '\\' ∉ line) : isContinued line = false := by
  rcases List.eq_nil_or_concat line with rfl | ⟨front, c, rfl⟩
  · rfl
  · rw [List.concat_eq_append] at h ⊢
    refine isContinued_concat ?_ front
    rintro rfl
    exact h (by simp)

theorem takeKey_suffix (t : Text) : (takeKey t).2 <:+ t := by
  fun_induction takeKey t with
  | case1 c rest key after heq ih =>
    rw [heq] at ih
    exact ih.trans ((List.suffix_cons c rest).trans (List.suffix_cons _ _))
  | case2 c rest => exact List.suffix_rfl
  | case3 c rest _ _ key after heq ih =>
    rw [heq] at ih
    exact ih.trans (List.suffix_cons c rest)
  | case4 => exact List.suffix_rfl

theorem dropSeparator_suffix (t : Text) : dropSeparator t <:+ t := by
  have htrim : t.trimLeft <:+ t := List.dropWhile_suffix _
  rw [dropSeparator]
  split
  · next c after heq =>
    rw [heq] at htrim
    split
    · exact ((List.dropWhile_suffix _).trans (List.suffix_cons c after)).trans htrim
    · exact htrim
  · exact List.nil_suffix

/-- Without backslashes a value stands on its line as it is. -/
theorem value_suffix {line : Text} {e : Text × Text} (h : entry? line = some e) (hback : .char '\\' ∉ line) :
    e.2 <:+ line := by
  have htrim : line.trimLeft <:+ line := List.dropWhile_suffix _
  unfold entry? at h
  cases hline : line.trimLeft with
  | nil => simp [hline] at h
  | cons c rest =>
    rw [hline] at htrim h
    dsimp only at h
    split at h
    · cases h
    · obtain rfl := Option.some.inj h
      have hvalue := ((dropSeparator_suffix _).trans (takeKey_suffix (c :: rest))).trans htrim
      rwa [unescape_of_not_mem fun hmem => hback (hvalue.subset hmem)]

theorem joinLines_of_not_mem {text : Text} (h : .char '\\' ∉ text) :
    joinLines [] text.splitLines = text.splitLines :=
  (joinLines_eq_self fun _ hline => .inr (isContinued_of_not_mem fun hmem =>
    h (Text.of_mem_splitLines hline _ hmem).1)).1

/-- Without backslashes no value reaches behind a line end. -/
theorem isLineEnd_eq_false_of_mem_entries {text : Text} {e : Text × Text} (h : e ∈ entries text)
    (hback : .char '\\' ∉ text) : ∀ c ∈ e.2, c.isLineEnd = false := by
  rw [entries, logicalLines, joinLines_of_not_mem hback] at h
  obtain ⟨line, hline, he⟩ := List.mem_filterMap.1 h
  have hof := Text.of_mem_splitLines hline
  intro c hc
  exact (hof c ((value_suffix he fun hmem => hback (hof _ hmem).1).subset hc)).2

/-- An entry of the key `k` that is written with `=`. -/
def assignment (value : Text) : Text := .char 'k' :: .char '=' :: value

theorem entry?_assignment {value : Text} (hback : .char '\\' ∉ value)
    (hblank : ∀ c ∈ value.head?, c.isBlank = false) : entry? (assignment value) = some (key, value) := by
  have hkey : takeKey (assignment value) = (key, .char '=' :: value) := rfl
  have hvalue : dropSeparator (.char '=' :: value) = value := trimLeft_of_head hblank
  have hentry := @entry_of_trimLeft (assignment value) (.char '=' :: value) (.char 'k') rfl rfl
  rw [← assignment, hkey, hvalue, unescape_of_not_mem hback] at hentry
  exact hentry

theorem parse_assignment {value : Text} (hback : .char '\\' ∉ value)
    (hblank : ∀ c ∈ value.head?, c.isBlank = false) (hend : ∀ c ∈ value, c.isLineEnd = false) :
    parse (assignment value) = [(key, value)] := by
  have hline : ∀ c ∈ assignment value, c.isLineEnd = false := by
    rw [assignment, List.forall_mem_cons, List.forall_mem_cons]
    exact ⟨rfl, rfl, hend⟩
  have hnone : .char '\\' ∉ assignment value := by simpa [assignment] using hback
  have hentries : entries (assignment value) = [(key, value)] := by
    rw [entries, logicalLines, joinLines_of_not_mem hnone,
      Text.splitLines_line hline (List.cons_ne_nil _ _)]
    simp [entry?_assignment hback hblank]
  rw [parse_eq_update, hentries]
  rfl

/-- A comment changes nothing exactly if the lines behind its first one have no entry and leave nothing
to be continued, and a value is whole exactly if no character of it ends a line. -/
theorem comment_and_value_whole_iff (note : Text) {value : Text} (hback : .char '\\' ∉ value)
    (hblank : ∀ c ∈ value.head?, c.isBlank = false) :
    (AddsNothing (comment note) ↔ parse (behindLine (comment note)) = [] ∧
        leftOver [] (behindLine (comment note)).splitLines = []) ∧
      ((∀ c ∈ note, c.isLineEnd = false) → behindLine (comment note) = [] ∧ AddsNothing (comment note)) ∧
      (parse (assignment value) = [(key, value)] ↔ ∀ c ∈ value, c.isLineEnd = false) := by
  have hcomment : AddsNothing (comment note) ↔ parse (behindLine (comment note)) = [] ∧
      leftOver [] (behindLine (comment note)).splitLines = [] := by
    obtain ⟨line, -, -, hleft⟩ := joinLines_comment note
    rw [addsNothing_iff (endsLine_comment note), parse_comment, hleft]
  refine ⟨hcomment, fun h => ?_, fun hparse => ?_, parse_assignment hback hblank⟩
  · have hbehind := behindLine_comment h
    refine ⟨hbehind, hcomment.2 ?_⟩
    rw [hbehind]
    exact ⟨parse_nil, complete_nil.leftOver_eq⟩
  · have hget : get? key (parse (assignment value)) = some value := by
      rw [hparse]
      rfl
    rw [parse_eq_update, Association.get?_update, Association.get?_nil, Option.or_none] at hget
    have hmem := List.mem_reverse.1 (Association.mem_of_get? hget)
    exact isLineEnd_eq_false_of_mem_entries hmem (by simpa [assignment] using hback)

/-- A note of two comments, with a form feed between them. -/
def twoRemarks : Text := " a\x0c!b"

def blankInside : Text := "#a b"

theorem comment_and_value_whole_twoRemarks :
    (.char '\\' ∉ blankInside ∧ ∀ c ∈ blankInside.head?, c.isBlank = false) ∧
      AddsNothing (comment twoRemarks) ∧ parse (assignment blankInside) = [(key, blankInside)] := by
  have hback : .char '\\' ∉ blankInside := by decide
  have hblank : ∀ c ∈ blankInside.head?, c.isBlank = false := by decide
  obtain ⟨hcomment, -, hvalue⟩ := comment_and_value_whole_iff twoRemarks hback hblank
  exact ⟨⟨hback, hblank⟩, hcomment.2 (by decide +kernel), hvalue.2 (by decide)⟩

/-- A note with a next-line character, as it stands in the bytes of many letters in UTF-8. -/
def nextLineNote : Text := "\u0085k=v"

def formFeedValue : Text := "a\x0cb"

/-- Neither a comment nor a value needs to be whole if there is only no LF, CR or backslash in it. -/
theorem comment_can_hold_entry :
    ((∀ c ∈ nextLineNote, c ≠ .char '\r' ∧ c ≠ .char '\n') ∧ ¬ AddsNothing (comment nextLineNote)) ∧
      ((∀ c ∈ formFeedValue, c ≠ .char '\r' ∧ c ≠ .char '\n' ∧ c ≠ .char '\\') ∧
        (∀ c ∈ formFeedValue.head?, c.isBlank = false ∧ isSeparator c = false) ∧
        parse (assignment formFeedValue) ≠ [(key, formFeedValue)]) := by
  refine ⟨⟨by decide, fun hadds => ?_⟩, by decide, by decide, by decide +kernel⟩
  have hentry : parse (comment nextLineNote) ≠ [] := by decide +kernel
  exact hentry ((addsNothing_iff (endsLine_comment nextLineNote)).1 hadds).1

end SchemaGate.Table
