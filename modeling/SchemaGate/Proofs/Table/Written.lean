import SchemaGate.Proofs.Association
import SchemaGate.Proofs.Table.Spelling
import SchemaGate.Proofs.Text.Lines

/-! Tables as they are written.

    An entry is written on a line of its own: blanks, the key, a separator and the value (`Writes`),
    and a table as its entries with line ends behind them (`Lists`). A written line is neither a
    comment nor continued and reads back as its entry, so a table of different keys reads back as its
    entries in their order. -/

namespace SchemaGate.Table

/-! ### Written entries -/

/-- Spaces, tabs and other blanks that end no line. -/
def IsGap (t : Text) : Prop := ∀ c ∈ t, c.isBlank = true ∧ c.isLineEnd = false

instance (t : Text) : Decidable (IsGap t) := inferInstanceAs (Decidable (∀ c ∈ t, _))

/-- `Separates key s`: what stands between the key and its value may be `s`. -/
inductive Separates (key : Text) : Text → Prop
  | mark {before after : Text} {m : CodePoint} (hb : IsGap before) (hm : isSeparator m)
      (ha : IsGap after) : Separates key (before ++ m :: after)
  | blanks {gap : Text} (hk : key ≠ []) (hg : IsGap gap) (hne : gap ≠ []) : Separates key gap

/-- `Writes e line`: the line may be written for the entry. -/
inductive Writes : Text × Text → Text → Prop
  | line {indent key s value k v : Text} (hi : IsGap indent) (hk : Spelling key k)
      (hs : Separates key s) (hv : Spelling value v) :
      Writes (key, value) (indent ++ (k ++ (s ++ v)))

/-- `Lists entries text`: the text has a line for each entry. The last line may do without its end. -/
inductive Lists : Mappings → Text → Prop
  | nil : Lists [] []
  | last {e : Text × Text} {line : Text} (h : Writes e line) : Lists [e] line
  | cons {e : Text × Text} {entries : Mappings} {line ending text : Text} (h : Writes e line)
      (he : ending ∈ Text.lineEnds) (ht : Lists entries text) :
      Lists (e :: entries) (line ++ (ending ++ text))

/-! ### Gaps and separators -/

theorem IsGap.trimLeft_append {gap : Text} (h : IsGap gap) (t : Text) :
    Text.trimLeft (gap ++ t) = t.trimLeft :=
  List.dropWhile_append_of_pos fun c hc => (h c hc).1

theorem trimLeft_cons {c : CodePoint} (h : c.isBlank = false) (t : Text) :
    Text.trimLeft (c :: t) = c :: t :=
  List.dropWhile_cons_of_neg (by simp [h])

theorem Spelling.trimLeft_eq {t w : Text} (h : Spelling t w) : w.trimLeft = w := by
  by_cases ht : t = []
  · subst ht
    cases h
    rfl
  · obtain ⟨d, rest, rfl, hd, -, -⟩ := h.exists_head ht
    exact trimLeft_cons hd rest

theorem of_isSeparator {c : CodePoint} (h : isSeparator c = true) :
    c.isBlank = false ∧ c.isLineEnd = false ∧ isCommentMark c = false := by
  have hc : c = .char '=' ∨ c = .char ':' := by simpa [isSeparator] using h
  rcases hc with rfl | rfl <;> decide

theorem dropSeparator_mark {before after v value : Text} {m : CodePoint} (hb : IsGap before)
    (hm : isSeparator m = true) (ha : IsGap after) (hv : Spelling value v) :
    dropSeparator (before ++ m :: after ++ v) = v := by
  rw [dropSeparator, List.append_assoc, hb.trimLeft_append, List.cons_append,
    trimLeft_cons (of_isSeparator hm).1]
  simp only [hm, if_true]
  rw [ha.trimLeft_append, hv.trimLeft_eq]

/-- The value behind a separator is read whole. -/
theorem Separates.dropSeparator_append {key s value v : Text} (h : Separates key s)
    (hv : Spelling value v) : dropSeparator (s ++ v) = v := by
  cases h with
  | mark hb hm ha => exact dropSeparator_mark hb hm ha hv
  | blanks _ hg _ =>
    rw [dropSeparator, hg.trimLeft_append, hv.trimLeft_eq]
    by_cases hne : value = []
    · subst hne
      cases hv
      rfl
    · obtain ⟨d, rest, rfl, -, hd, -⟩ := hv.exists_head hne
      simp only [hd, Bool.false_eq_true, if_false]

theorem Separates.endsKey {key s : Text} (h : Separates key s) (rest : Text) :
    EndsKey (s ++ rest) := by
  intro c hc
  have hgap {gap t : Text} (hg : IsGap gap) (hm : c ∈ (gap ++ t).head?) (hne : gap ≠ []) :
      (isSeparator c || c.isBlank) = true := by
    obtain ⟨d, gap, rfl⟩ := List.exists_cons_of_ne_nil hne
    cases hm
    rw [(hg c List.mem_cons_self).1, Bool.or_true]
  cases h with
  | @mark before after m hb hm ha =>
    rw [List.append_assoc] at hc
    by_cases hn : before = []
    · subst hn
      cases hc
      rw [hm, Bool.true_or]
    · exact hgap hb hc hn
  | blanks _ hg hne => exact hgap hg hc hne

theorem Separates.ne_nil {key s : Text} (h : Separates key s) : s ≠ [] := by
  cases h with
  | mark => simp
  | blanks _ _ hne => exact hne

theorem Separates.isLineEnd_eq_false {key s : Text} (h : Separates key s) :
    ∀ c ∈ s, c.isLineEnd = false := by
  intro c hc
  cases h with
  | mark hb hm ha =>
    rcases List.mem_append.1 hc with hc | hc
    · exact (hb c hc).2
    · rcases List.mem_cons.1 hc with rfl | hc
      · exact (of_isSeparator hm).2.1
      · exact (ha c hc).2
  | blanks _ hg _ => exact (hg c hc).2

theorem Separates.ne_backslash {key s : Text} (h : Separates key s) :
    ∀ c ∈ s, c ≠ .char '\\' := by
  rintro c hc rfl
  have hgap {gap : Text} (hg : IsGap gap) : .char '\\' ∉ gap := fun hm => by
    cases (hg _ hm).1
  cases h with
  | mark hb hm ha =>
    rcases List.mem_append.1 hc with hc | hc
    · exact hgap hb hc
    · rcases List.mem_cons.1 hc with rfl | hc
      · cases hm
      · exact hgap ha hc
  | blanks _ hg _ => exact hgap hg hc

/-! ### Written lines -/

theorem entry_of_trimLeft {line rest : Text} {c : CodePoint} (h : line.trimLeft = c :: rest)
    (hc : isCommentMark c = false) :
    entry? line = some (unescape (takeKey (c :: rest)).1,
      unescape (dropSeparator (takeKey (c :: rest)).2)) := by
  unfold entry?
  rw [h]
  simp only [hc, Bool.false_eq_true, if_false]

/-- A line that starts with a separator has the empty key. -/
theorem entry_of_mark {line after value v : Text} {m : CodePoint} (hm : isSeparator m = true)
    (h : line.trimLeft = m :: (after ++ v)) (ha : IsGap after) (hv : Spelling value v) :
    entry? line = some ([], value) := by
  have hends : EndsKey (m :: (after ++ v)) := fun c hc => by
    cases hc
    rw [hm, Bool.true_or]
  have hdrop : dropSeparator (m :: (after ++ v)) = v :=
    @dropSeparator_mark [] _ _ _ _ nofun hm ha hv
  rw [entry_of_trimLeft h (of_isSeparator hm).2.2, takeKey_of_endsKey hends, hdrop, hv.unescape_eq, unescape]

/-- A written line reads back as its entry. -/
theorem Writes.entry_eq {e : Text × Text} {line : Text} (h : Writes e line) :
    entry? line = some e := by
  cases h with
  | @line indent key s value k v hi hk hs hv =>
    by_cases hne : key = []
    · -- the separator of an empty key is a mark, and the blanks before it count as indentation
      subst hne
      cases hk
      cases hs with
      | blanks hk => exact absurd rfl hk
      | @mark before after m hb hm ha =>
        refine entry_of_mark hm ?_ ha hv
        rw [hi.trimLeft_append, List.nil_append, List.append_assoc, hb.trimLeft_append,
          List.cons_append, trimLeft_cons (of_isSeparator hm).1]
    · obtain ⟨c, rest, rfl, hblank, -, hmark⟩ := hk.exists_head hne
      have htrim : (indent ++ (c :: rest ++ (s ++ v))).trimLeft = c :: (rest ++ (s ++ v)) := by
        rw [hi.trimLeft_append, List.cons_append, trimLeft_cons hblank]
      rw [entry_of_trimLeft htrim hmark, ← List.cons_append, hk.takeKey_append (hs.endsKey v),
        hs.dropSeparator_append hv, hk.unescape_eq, hv.unescape_eq]

/-- A line with an entry is no comment. -/
theorem isComment_of_entry {line : Text} {e : Text × Text} (h : entry? line = some e) :
    isComment line = false := by
  unfold entry? at h
  rw [isComment]
  cases ht : line.trimLeft with
  | nil => rfl
  | cons c rest =>
    rw [ht] at h
    cases hc : isCommentMark c with
    | false => simpa using hc
    | true => simp [hc] at h

theorem Writes.isContinued_eq_false {e : Text × Text} {line : Text} (h : Writes e line) :
    isContinued line = false := by
  cases h with
  | @line indent key s value k v hi hk hs hv =>
    rw [← List.append_assoc, ← List.append_assoc]
    refine hv.isContinued_append ?_
    rw [← List.dropLast_concat_getLast hs.ne_nil, ← List.append_assoc]
    exact isContinued_concat (hs.ne_backslash _ (List.getLast_mem hs.ne_nil)) _

theorem Writes.isLineEnd_eq_false {e : Text × Text} {line : Text} (h : Writes e line) :
    ∀ c ∈ line, c.isLineEnd = false := by
  intro c hc
  cases h with
  | line hi hk hs hv =>
    simp only [List.mem_append] at hc
    rcases hc with hc | hc | hc | hc
    · exact (hi c hc).2
    · exact hk.isLineEnd_eq_false c hc
    · exact hs.isLineEnd_eq_false c hc
    · exact hv.isLineEnd_eq_false c hc

theorem Writes.ne_nil {e : Text × Text} {line : Text} (h : Writes e line) : line ≠ [] := by
  cases h with
  | line _ _ hs _ => simp [hs.ne_nil]

/-- A line that is no comment and not continued stands for itself. -/
theorem joinLines_cons {line : Text} (hc : isComment line = false)
    (hl : isContinued line = false) (rest : List Text) :
    joinLines [] (line :: rest) = line :: joinLines [] rest := by
  simp [joinLines, hc, hl]

/-- A written line gives its entry, whatever the lines behind it. -/
theorem Writes.filterMap_joinLines {e : Text × Text} {line : Text} (h : Writes e line)
    (rest : List Text) :
    (joinLines [] (line :: rest)).filterMap entry? =
      e :: (joinLines [] rest).filterMap entry? := by
  rw [joinLines_cons (isComment_of_entry h.entry_eq) h.isContinued_eq_false,
    List.filterMap_cons_some h.entry_eq]

/-! ### Written tables -/

/-- Every table can be written. -/
theorem exists_lists (entries : Mappings) : ∃ text, Lists entries text := by
  induction entries with
  | nil => exact ⟨[], .nil⟩
  | cons e entries ih =>
    obtain ⟨text, ht⟩ := ih
    obtain ⟨k, hk⟩ := exists_spelling e.1
    obtain ⟨v, hv⟩ := exists_spelling e.2
    have hs : Separates e.1 [.char '='] := @Separates.mark _ [] [] _ nofun rfl nofun
    have hline : Writes e _ := @Writes.line [] e.1 _ e.2 k v nofun hk hs hv
    exact ⟨_, .cons hline List.mem_cons_self ht⟩

theorem Lists.head?_ne {entries : Mappings} {text : Text} (h : Lists entries text) :
    text.head? ≠ some (.char '\n') := by
  have hhead {e : Text × Text} {line : Text} (hw : Writes e line) (rest : Text) :
      (line ++ rest).head? ≠ some (.char '\n') := by
    obtain ⟨c, line, rfl⟩ := List.exists_cons_of_ne_nil hw.ne_nil
    rintro ⟨⟩
    cases hw.isLineEnd_eq_false _ List.mem_cons_self
  cases h with
  | nil => nofun
  | @last e _ hw => simpa using hhead hw []
  | cons hw _ _ => exact hhead hw _

/-- The lines of a written table give its entries. -/
theorem Lists.filterMap_logicalLines {entries : Mappings} {text : Text} (h : Lists entries text) :
    (logicalLines text).filterMap entry? = entries := by
  induction h with
  | nil =>
    rw [logicalLines, Text.splitLines]
    rfl
  | last hw =>
    rw [logicalLines, Text.splitLines_line hw.isLineEnd_eq_false hw.ne_nil,
      hw.filterMap_joinLines]
    rfl
  | cons hw he ht ih =>
    rw [logicalLines, Text.splitLines_append hw.isLineEnd_eq_false he ht.head?_ne,
      hw.filterMap_joinLines]
    exact congrArg _ ih

/-- A written table of different keys is read as its entries, in their order. -/
theorem parse_eq_of_lists {entries : Mappings} {text : Text} (h : Lists entries text)
    (hkeys : (entries.map Prod.fst).Nodup) : parse text = entries := by
  rw [parse, h.filterMap_logicalLines, Association.foldl_put hkeys, List.nil_append]

/-- A key like a comment that ends in a backslash, an empty key, and a blank as the separator. -/
def sampleEntries : Mappings := [("#k\\", " v\n\\"), ([], [.surrogate 0x3D]), ("k", [])]

def sampleTable : Text := "\t\\#k\\\\ = \\ v\\n\\\\\r\n:\\uD83d\rk "

theorem lists_sampleTable : Lists sampleEntries sampleTable := by
  have hspace : IsGap " " := by decide
  have htab : IsGap "\t" := by decide
  have hkey : Spelling "#k\\" "\\#k\\\\" :=
    .cons (.marked (by decide)) (.cons (.plain rfl) (.cons (.marked (by decide)) .nil))
  have hvalue : Spelling " v\n\\" "\\ v\\n\\\\" :=
    .cons (.marked (by decide)) (.cons (.plain rfl)
      (.cons (.named (by decide)) (.cons (.marked (by decide)) .nil)))
  have hhalf : Spelling [.surrogate 0x3D] "\\uD83d" := .cons (.number rfl rfl rfl rfl rfl) .nil
  have hk : Spelling "k" "k" := .cons (.plain rfl) .nil
  have hfirst : Writes ("#k\\", " v\n\\") "\t\\#k\\\\ = \\ v\\n\\\\" :=
    .line htab hkey (.mark hspace rfl hspace) hvalue
  have hsecond : Writes ([], [.surrogate 0x3D]) ":\\uD83d" :=
    @Writes.line [] [] ":" _ [] _ nofun .nil (@Separates.mark _ [] [] _ nofun rfl nofun) hhalf
  have hthird : Writes ("k", []) "k " :=
    @Writes.line [] _ " " _ _ [] nofun hk
      (.blanks (List.cons_ne_nil _ _) hspace (List.cons_ne_nil _ _)) .nil
  exact .cons hfirst (.tail _ (.tail _ (.head _)))
    (@Lists.cons _ _ _ [.char '\r'] _ hsecond (by decide) (.last hthird))

theorem parse_sampleTable :
    Lists sampleEntries sampleTable ∧ (sampleEntries.map Prod.fst).Nodup ∧
      parse sampleTable = sampleEntries := by
  have hkeys : (sampleEntries.map Prod.fst).Nodup := by decide
  exact ⟨lists_sampleTable, hkeys, parse_eq_of_lists lists_sampleTable hkeys⟩

end SchemaGate.Table
