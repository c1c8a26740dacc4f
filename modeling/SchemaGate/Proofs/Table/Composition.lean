import Mathlib.Data.List.TakeWhile
import SchemaGate.Proofs.Table.Continuation

/-! Tables one behind the other.

    Behind a table whose last line has ended and is not to be continued (`awaitsMore`) another one may
    be put, and what is read is the first table updated with the second (`parse_append`): a key that
    both have keeps its place and gets the value of the second, the other keys of the second follow in
    their order. So a text may be taken apart at any such place, and comments and blank lines, whatever
    their ends, may be put in. -/

namespace SchemaGate.Table

open Association (get? newKeys update)

/-- The entries that a text spells, one for each line that has one. -/
def entries (text : Text) : Mappings := (logicalLines text).filterMap entry?

/-- Do lines leave something to be continued? The last of them stands first here. It must end in an odd
number of backslashes, and unless it continues a line itself it must be no comment and more than a lone
backslash. -/
def awaitsMore : List Text → Bool
  | [] => false
  | last :: before => isContinued last && (awaitsMore before || !(isComment last || last = [.char '\\']))

/-- Are all lines comments or blank? -/
def IsRemark (text : Text) : Prop :=
  text.EndsLine ∧ ∀ line ∈ text.splitLines, isComment line = true ∨ line.isBlank = true

instance (text : Text) : Decidable (IsRemark text) :=
  inferInstanceAs (Decidable (_ ∧ ∀ line ∈ text.splitLines, _))

/-! ### Where nothing is to be continued -/

theorem dropLast_eq_nil_of_isContinued {line : Text} (h : isContinued line = true) :
    line.dropLast = [] ↔ line = [.char '\\'] := by
  constructor
  · intro hdrop
    obtain ⟨c, rfl⟩ : ∃ c, line = [c] := by
      have hlast := List.dropLast_concat_getLast (ne_nil_of_isContinued h)
      rw [hdrop, List.nil_append] at hlast
      exact ⟨_, hlast.symm⟩
    by_cases hc : c = .char '\\'
    · rw [hc]
    · simp [isContinued, hc] at h
  · rintro rfl
    rfl

theorem leftOver_concat (pending : Text) (lines : List Text) (last : Text) :
    leftOver pending (lines ++ [last]) = leftOver (leftOver pending lines) [last] :=
  leftOver_append pending lines [last]

/-- Lines leave nothing exactly if the last of them awaits nothing. -/
theorem leftOver_eq_nil_iff (lines : List Text) :
    leftOver [] lines = [] ↔ awaitsMore lines.reverse = false := by
  induction lines using List.reverseRecOn with
  | nil => simp [leftOver, awaitsMore]
  | append_singleton lines last ih =>
    rw [leftOver_concat, List.reverse_append, List.reverse_singleton, List.singleton_append, awaitsMore]
    by_cases hleft : leftOver [] lines = []
    · rw [ih.1 hleft, hleft]
      cases hcomment : isComment last with
      | true => simp [leftOver, hcomment]
      | false =>
        cases hc : isContinued last with
        | true => simp [leftOver, hcomment, hc, dropLast_eq_nil_of_isContinued hc]
        | false => simp [leftOver, hcomment, hc]
    · have hawaits : awaitsMore lines.reverse = true := by simpa using mt ih.2 hleft
      cases hc : isContinued last with
      | true => simp [leftOver, hleft, hawaits, isContinued_trimLeft, hc]
      | false => simp [leftOver, hleft, isContinued_trimLeft, hc]

theorem complete_iff {text : Text} :
    Complete text ↔ text.EndsLine ∧ awaitsMore text.splitLines.reverse = false :=
  ⟨fun h => ⟨h.endsLine, (leftOver_eq_nil_iff _).1 h.leftOver_eq⟩,
    fun h => ⟨h.1, (leftOver_eq_nil_iff _).2 h.2⟩⟩

/-! ### The entries of two texts -/

theorem parse_eq_update (text : Text) : parse text = update [] (entries text) := rfl

theorem nodup_parse (text : Text) : ((parse text).map Prod.fst).Nodup :=
  Association.nodup_update (by simp) _

/-- A newline in front is a blank line. -/
theorem entries_newline (rest : Text) : entries (.char '\n' :: rest) = entries rest := by
  have hlines : Text.splitLines (.char '\n' :: rest) = [] :: Text.splitLines rest := by
    rw [Text.splitLines, takeLine_newline]
  rw [entries, logicalLines, hlines, joinLines_cons rfl rfl]
  rfl

/-- A text in which nothing is left to be continued has its entries in front of those of another one. -/
theorem Complete.entries_append {first : Text} (h : Complete first) (second : Text) :
    entries (first ++ second) = entries first ++ entries second := by
  have hjoined {lines more : List Text} (hlines : leftOver [] lines = []) :
      (joinLines [] (lines ++ more)).filterMap entry? =
        (joinLines [] lines).filterMap entry? ++ (joinLines [] more).filterMap entry? := by
    rw [joinLines_append hlines, List.filterMap_append]
  by_cases hsplit : first.getLast? = some (.char '\r') ∧ second.head? = some (.char '\n')
  · -- the LF belongs to the line end in front of it, and alone it is a blank line
    obtain ⟨front, rfl⟩ := List.getLast?_eq_some_iff.1 hsplit.1
    obtain ⟨second, rfl⟩ := List.head?_eq_some_iff.1 hsplit.2
    rw [entries_newline, entries, logicalLines, List.append_assoc, List.singleton_append,
      Text.splitLines_return_newline, hjoined h.leftOver_eq]
    rfl
  · rw [entries, logicalLines,
      h.endsLine.splitLines_append_of fun hlast hhead => hsplit ⟨hlast, hhead⟩, hjoined h.leftOver_eq]
    rfl

theorem Complete.parse_append_eq {first : Text} (h : Complete first) (second : Text) :
    parse (first ++ second) = update (parse first) (parse second) := by
  have hfold : parse (first ++ second) = update (parse first) (entries second) := by
    rw [parse_eq_update, h.entries_append]
    exact List.foldl_append
  rw [hfold, parse_eq_update second, Association.update_update (nodup_parse first) (by simp)]
  rfl

/-! ### Remarks -/

theorem trimLeft_of_isBlank {line : Text} (h : line.isBlank = true) : line.trimLeft = [] :=
  List.dropWhile_eq_nil_iff.2 (List.all_eq_true.1 h)

theorem entry?_of_isBlank {line : Text} (h : line.isBlank = true) : entry? line = none := by
  unfold entry?
  rw [trimLeft_of_isBlank h]

theorem entry?_of_isComment {line : Text} (h : isComment line = true) : entry? line = none := by
  cases hentry : entry? line with
  | none => rfl
  | some e =>
    rw [isComment_of_entry hentry] at h
    cases h

theorem isContinued_of_isBlank {line : Text} (h : line.isBlank = true) : isContinued line = false := by
  rw [← isContinued_trimLeft, trimLeft_of_isBlank h]
  rfl

/-- Lines of which none is continued stay as they are; a comment is not, whatever it ends in. -/
theorem joinLines_eq_self {lines : List Text}
    (h : ∀ line ∈ lines, isComment line = true ∨ isContinued line = false) :
    joinLines [] lines = lines ∧ leftOver [] lines = [] := by
  induction lines with
  | nil => exact ⟨rfl, rfl⟩
  | cons line lines ih =>
    rw [List.forall_mem_cons] at h
    obtain ⟨hjoin, hleft⟩ := ih h.2
    cases hc : isComment line with
    | true => simp [joinLines, leftOver, hc, hjoin, hleft]
    | false =>
      have hcontinued := h.1.resolve_left (by simp [hc])
      simp [joinLines, leftOver, hc, hcontinued, hjoin, hleft]

theorem IsRemark.joinLines_eq {text : Text} (h : IsRemark text) :
    joinLines [] text.splitLines = text.splitLines ∧ leftOver [] text.splitLines = [] :=
  joinLines_eq_self fun line hline => (h.2 line hline).imp_right isContinued_of_isBlank

theorem IsRemark.complete {text : Text} (h : IsRemark text) : Complete text := ⟨h.1, h.joinLines_eq.2⟩

theorem IsRemark.parse_eq {text : Text} (h : IsRemark text) : parse text = [] := by
  have hentries : entries text = [] := by
    rw [entries, logicalLines, h.joinLines_eq.1, List.filterMap_eq_nil_iff]
    intro line hline
    exact (h.2 line hline).elim entry?_of_isComment entry?_of_isBlank
  rw [parse_eq_update, hentries]
  rfl

theorem update_nil_parse (text : Text) : update [] (parse text) = parse text := by
  rw [parse_eq_update, Association.update_update (by simp) (by simp)]
  rfl

/-- Behind a table whose last line has ended and is not to be continued another table updates it, and
remarks may stand between the two. -/
theorem parse_append {first : Text} (hends : first.EndsLine)
    (hlast : awaitsMore first.splitLines.reverse = false) (second : Text) :
    parse (first ++ second) = update (parse first) (parse second) ∧
      (∀ key, get? key (parse (first ++ second)) = (get? key (parse second)).or (get? key (parse first))) ∧
      (parse (first ++ second)).map Prod.fst =
        (parse first).map Prod.fst ++ newKeys ((parse first).map Prod.fst) ((parse second).map Prod.fst) ∧
      ∀ remark, IsRemark remark → parse (first ++ (remark ++ second)) = parse (first ++ second) := by
  have hfirst : Complete first := complete_iff.2 ⟨hends, hlast⟩
  have hupdate := hfirst.parse_append_eq second
  refine ⟨hupdate, fun key => ?_, ?_, fun remark hremark => ?_⟩
  · rw [hupdate, Association.get?_update, Association.last?_of_nodup (nodup_parse second)]
  · rw [hupdate, Association.keys_update]
  · rw [hfirst.parse_append_eq, hremark.complete.parse_append_eq, hremark.parse_eq, update_nil_parse, hupdate]

/-- An escaped backslash at the end of an entry, a comment that ends in a backslash, and a CR. -/
def firstTable : Text := "a=1\\\\\nb=2\n#c\\\r"

/-- The LF of the line end in front, a new key and a key that is there. -/
def secondTable : Text := "\nc=3\na=4"

def bothTables : Mappings := [("a", "4"), ("b", "2"), ("c", "3")]

theorem parse_append_acrossLineEnd :
    (firstTable.EndsLine ∧ awaitsMore firstTable.splitLines.reverse = false) ∧
      parse (firstTable ++ secondTable) = update (parse firstTable) (parse secondTable) ∧
      update (parse firstTable) (parse secondTable) = bothTables := by
  have hends : firstTable.EndsLine := by decide
  have hlast : awaitsMore firstTable.splitLines.reverse = false := by decide +kernel
  exact ⟨⟨hends, hlast⟩, (parse_append hends hlast secondTable).1, by decide +kernel⟩

end SchemaGate.Table
