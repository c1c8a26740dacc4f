import SchemaGate.Proofs.Association
import SchemaGate.Proofs.Json.Literals
import SchemaGate.Proofs.Outcome

/-! Values written as JSON and read back.

    A value is kept by JSON if its integers are not too long, its texts hold characters only, the names in
    an object are different and there is room for as many values inside each other (`Kept`). Every part of
    such a value is read back from the place where it stands, up to what stands behind it (`ReadsBack`), and
    so is the whole (`read_printIndented`). -/

namespace SchemaGate.Json

/-- The values that are told by how they are written, where there is so much room. -/
inductive Kept : Option Nat → Value → Prop
  | null {room : Option Nat} : Kept room .null
  | bool {room : Option Nat} (b : Bool) : Kept room (.bool b)
  | int {room : Option Nat} {n : Int} (h : (Value.int n).isLong = false) : Kept room (.int n)
  | text {room : Option Nat} (s : String) : Kept room (.text s)
  | list {room inner : Option Nat} {items : List Value} (hroom : inside "array" room = .ok inner)
    (h : ∀ v ∈ items, Kept inner v) : Kept room (.list items)
  | object {room inner : Option Nat} {fields : List (Text × Value)} (hroom : inside "object" room = .ok inner)
    (hnames : ∀ f ∈ fields, ∃ s : String, f.1 = s) (hnodup : (fields.map Prod.fst).Nodup)
    (h : ∀ f ∈ fields, Kept inner f.2) : Kept room (.object fields)

variable {room inner : Option Nat}

theorem anyHoldsLong_eq_false_iff {items : List Value} :
    Value.anyHoldsLong items = false ↔ ∀ v ∈ items, v.holdsLong = false := by
  induction items with
  | nil => simp [Value.anyHoldsLong]
  | cons v vs ih => rw [Value.anyHoldsLong, Bool.or_eq_false_iff, ih, List.forall_mem_cons]

theorem anyFieldHoldsLong_eq_false_iff {fields : List (Text × Value)} :
    Value.anyFieldHoldsLong fields = false ↔ ∀ f ∈ fields, f.2.holdsLong = false := by
  induction fields with
  | nil => simp [Value.anyFieldHoldsLong]
  | cons f fs ih => rw [Value.anyFieldHoldsLong, Bool.or_eq_false_iff, ih, List.forall_mem_cons]

/-- No number in such a value is too long to be written. -/
theorem Kept.holdsLong {v : Value} (h : Kept room v) : v.holdsLong = false := by
  induction h with
  | null | bool | text => rfl
  | int h => exact h
  | list _ _ ih => exact anyHoldsLong_eq_false_iff.2 ih
  | object _ _ _ _ ih => exact anyFieldHoldsLong_eq_false_iff.2 ih

/-- Wherever a value is written, it is read from there up to what ends it. -/
def ReadsBack (room : Option Nat) (v : Value) : Prop :=
  ∀ depth fuel rest, (printAt depth v).length < fuel → EndsValue rest →
    readValue fuel room (printAt depth v ++ rest) = .ok (v, rest)

/-! ### White space -/

theorem skipSpace_newline (depth : Nat) (t : Text) : skipSpace (newline depth ++ t) = skipSpace t := by
  have hspace : ∀ c ∈ newline depth, isSpace c = true := by
    intro c hc
    rcases List.mem_cons.1 hc with rfl | hc
    · rfl
    · rw [List.eq_of_mem_replicate hc]
      rfl
  rw [skipSpace, List.dropWhile_append_of_pos hspace, skipSpace]

theorem skipSpace_cons {c : CodePoint} (h : isSpace c = false) (t : Text) : skipSpace (c :: t) = c :: t := by
  rw [skipSpace, List.dropWhile_cons, h, if_neg nofun]

theorem endsValue_newline (depth : Nat) (t : Text) : EndsValue (newline depth ++ t) :=
  .inr ⟨_, .inr rfl⟩

/-! ### Words and numbers -/

/-- A value that is no string, list or object is a word or a number. -/
theorem readValue_plain {c : CodePoint} (hquote : c ≠ .char '"') (hlist : c ≠ .char '[')
    (hobject : c ≠ .char '\x7b') (fuel : Nat) (t : Text) :
    readValue (fuel + 1) room (c :: t) = readPlain (c :: t) := by
  rw [readValue, if_neg hquote, if_neg hlist, if_neg hobject]

theorem ne_of_isDigit {c d : CodePoint} (hc : isDigit c = true) (hd : isDigit d = false) : c ≠ d := by
  rintro rfl
  rw [hd] at hc
  cases hc

/-- What an integer starts with. -/
theorem exists_ofInt_eq_cons (n : Int) : ∃ c ds, Text.ofInt n = c :: ds ∧
    (isDigit c = true ∨ c = .char '-' ∧ ∃ d ds', ds = d :: ds' ∧ isDigit d = true) := by
  cases n with
  | ofNat n =>
    obtain ⟨d, ds, hn⟩ := exists_ofNat_eq_cons n
    exact ⟨d, ds, hn, .inl (isDigit_of_mem_ofNat (hn ▸ List.mem_cons_self))⟩
  | negSucc n =>
    obtain ⟨d, ds, hn⟩ := exists_ofNat_eq_cons (n + 1)
    exact ⟨_, _, ofInt_negSucc n, .inr ⟨rfl, d, ds, hn, isDigit_of_mem_ofNat (hn ▸ List.mem_cons_self)⟩⟩

/-- No word starts like an integer. -/
theorem literal?_ofInt (n : Int) (rest : Text) :
    ∀ word ∈ words, literal? word.1 (Text.ofInt n ++ rest) = none := by
  obtain ⟨c, ds, hn, hc | ⟨rfl, d, ds', rfl, hd⟩⟩ := exists_ofInt_eq_cons n
  · have hne {d : CodePoint} (hd : isDigit d = false) : ¬ d = c := (ne_of_isDigit hc hd).symm
    rw [hn]
    simp [words, literal?, Text.ofString, dropPrefix?, hne (d := .char 'n') rfl, hne (d := .char 't') rfl,
      hne (d := .char 'f') rfl, hne (d := .char 'N') rfl, hne (d := .char 'I') rfl, hne (d := .char '-') rfl]
  · have hne : ¬ CodePoint.char 'I' = d := (ne_of_isDigit hd rfl).symm
    rw [hn]
    simp [words, literal?, Text.ofString, dropPrefix?, hne]

theorem readPlain_ofInt (n : Int) (rest : Text) :
    readPlain (Text.ofInt n ++ rest) = readNumber (Text.ofInt n ++ rest) := by
  rw [readPlain]
  split
  · next found hfound =>
    obtain ⟨word, hword, hsome⟩ := List.exists_of_findSome?_eq_some hfound
    simp only [literal?_ofInt n rest word hword, Option.map_none, reduceCtorEq] at hsome
  · rfl

theorem isSpace_of_isDigit {c : CodePoint} (h : isDigit c = true) : isSpace c = false := by
  simp [isSpace, ne_of_isDigit h (d := .char ' ') rfl, ne_of_isDigit h (d := .char '\t') rfl,
    ne_of_isDigit h (d := .char '\n') rfl, ne_of_isDigit h (d := .char '\r') rfl]

theorem readsBack_int {n : Int} (h : (Value.int n).isLong = false) : ReadsBack room (.int n) := by
  intro depth fuel rest hfuel hrest
  have hread := readPlain_ofInt n rest
  rw [readNumber_ofInt h hrest] at hread
  rw [printAt] at hfuel ⊢
  obtain ⟨c, ds, hn, hc⟩ := exists_ofInt_eq_cons n
  rw [hn] at hfuel hread ⊢
  obtain ⟨fuel, rfl⟩ := Nat.exists_eq_add_one.2 (Nat.zero_lt_of_lt hfuel)
  have hplain : c ≠ .char '"' ∧ c ≠ .char '[' ∧ c ≠ .char '\x7b' := by
    rcases hc with hc | ⟨rfl, -⟩
    · exact ⟨ne_of_isDigit hc rfl, ne_of_isDigit hc rfl, ne_of_isDigit hc rfl⟩
    · decide
  exact (readValue_plain hplain.1 hplain.2.1 hplain.2.2 fuel _).trans hread

theorem readsBack_null : ReadsBack room .null := by
  intro depth fuel rest hfuel _
  obtain ⟨fuel, rfl⟩ := Nat.exists_eq_add_one.2 (Nat.zero_lt_of_lt hfuel)
  exact readValue_plain (by decide) (by decide) (by decide) fuel _

theorem readsBack_bool (b : Bool) : ReadsBack room (.bool b) := by
  intro depth fuel rest hfuel _
  obtain ⟨fuel, rfl⟩ := Nat.exists_eq_add_one.2 (Nat.zero_lt_of_lt hfuel)
  cases b with
  | false => exact readValue_plain (by decide) (by decide) (by decide) fuel _
  | true => exact readValue_plain (by decide) (by decide) (by decide) fuel _

/-! ### Strings -/

theorem readsBack_text (s : String) : ReadsBack room (.text s) := by
  intro depth fuel rest hfuel _
  obtain ⟨fuel, rfl⟩ := Nat.exists_eq_add_one.2 (Nat.zero_lt_of_lt hfuel)
  obtain ⟨inside, hprint, hread⟩ := readString_printString s.toList rest
  rw [printAt]
  change readValue (fuel + 1) room (printString (s.toList.map .char) ++ rest) = _
  rw [hprint, readValue, if_pos rfl, hread]
  rfl

/-! ### Lists -/

/-- The items of a list as they are written between its brackets. -/
def itemsText (depth : Nat) : List Value → Text
  | [] => []
  | v :: vs => printAt depth v ++ printItems depth vs

theorem printItems_cons (depth : Nat) (v : Value) (vs : List Value) :
    printItems depth (v :: vs) = .char ',' :: (newline depth ++ itemsText depth (v :: vs)) := by
  simp [printItems, itemsText, Text.ofString]

/-- What a value starts with. -/
theorem Kept.exists_printAt_eq_cons {v : Value} (h : Kept room v) (depth : Nat) :
    ∃ c t, printAt depth v = c :: t ∧ isSpace c = false ∧ c ≠ .char ']' ∧ c ≠ .char '\ufeff' := by
  cases h with
  | null => exact ⟨_, _, rfl, rfl, by decide⟩
  | bool b => cases b <;> exact ⟨_, _, rfl, rfl, by decide⟩
  | int h =>
    next n =>
    obtain ⟨c, ds, hn, hc | ⟨rfl, -⟩⟩ := exists_ofInt_eq_cons n
    · exact ⟨c, ds, by rw [printAt, hn], isSpace_of_isDigit hc, ne_of_isDigit hc rfl, ne_of_isDigit hc rfl⟩
    · exact ⟨_, ds, by rw [printAt, hn], rfl, by decide⟩
  | text s => exact ⟨_, _, by rw [printAt, printString]; rfl, rfl, by decide⟩
  | list =>
    next inner items _ _ =>
    cases items with
    | nil => exact ⟨_, _, rfl, rfl, by decide⟩
    | cons v vs => exact ⟨_, _, by rw [printAt]; rfl, rfl, by decide⟩
  | object =>
    next inner fields _ _ _ _ =>
    cases fields with
    | nil => exact ⟨_, _, rfl, rfl, by decide⟩
    | cons f fs => exact ⟨_, _, by rw [printAt]; rfl, rfl, by decide⟩

theorem exists_itemsText_eq_cons (depth : Nat) {items : List Value} (hne : items ≠ [])
    (hkept : ∀ v ∈ items, Kept room v) :
    ∃ c t, itemsText depth items = c :: t ∧ isSpace c = false ∧ c ≠ .char ']' := by
  cases items with
  | nil => exact absurd rfl hne
  | cons v vs =>
    obtain ⟨c, t, hv, hc⟩ := (hkept v List.mem_cons_self).exists_printAt_eq_cons depth
    exact ⟨c, t ++ printItems depth vs, by rw [itemsText, hv, List.cons_append], hc.1, hc.2.1⟩

theorem skipSpace_itemsText (depth : Nat) {items : List Value} (hne : items ≠ [])
    (hkept : ∀ v ∈ items, Kept room v) (t : Text) :
    skipSpace (newline depth ++ (itemsText depth items ++ t)) = itemsText depth items ++ t := by
  obtain ⟨c, more, hitems, hspace, -⟩ := exists_itemsText_eq_cons depth hne hkept
  rw [skipSpace_newline, hitems, List.cons_append, skipSpace_cons hspace]

/-- The items of a list are read up to its closing bracket. -/
theorem readItems_itemsText (depth outer : Nat) {items : List Value} (hne : items ≠ [])
    (hkept : ∀ v ∈ items, Kept room v) (hread : ∀ v ∈ items, ReadsBack room v) {fuel : Nat}
    (hfuel : (itemsText depth items).length + 1 < fuel) (rest : Text) :
    readItems fuel room (itemsText depth items ++ (newline outer ++ .char ']' :: rest)) = .ok (items, rest) := by
  induction items generalizing fuel with
  | nil => exact absurd rfl hne
  | cons v vs ih =>
    -- one step of fuel goes to the item, and the comma behind it makes up for it
    obtain ⟨fuel, rfl⟩ := Nat.exists_eq_add_one.2 (Nat.zero_lt_of_lt hfuel)
    rw [itemsText, List.length_append] at hfuel
    have hv := hread v List.mem_cons_self depth fuel
    rw [itemsText, List.append_assoc, readItems]
    cases vs with
    | nil =>
      rw [printItems, List.nil_append, hv _ (by omega) (endsValue_newline outer _)]
      simp only [bind, Except.bind, skipSpace_newline]
      rfl
    | cons v' vs =>
      have hkept' : ∀ w ∈ v' :: vs, Kept room w := fun w hw => hkept w (List.mem_cons_of_mem _ hw)
      have hmore : readItems fuel room (itemsText depth (v' :: vs) ++ (newline outer ++ .char ']' :: rest)) =
          .ok (v' :: vs, rest) := by
        refine ih (List.cons_ne_nil _ _) hkept' (fun w hw => hread w (List.mem_cons_of_mem _ hw)) ?_
        rw [printItems_cons, List.length_cons, List.length_append] at hfuel
        omega
      rw [printItems_cons, List.cons_append, hv _ (by omega) (.inr ⟨_, .inl rfl⟩)]
      simp only [bind, Except.bind, skipSpace_cons (c := .char ',') rfl, List.append_assoc,
        skipSpace_itemsText depth (List.cons_ne_nil v' vs) hkept', hmore]
      rfl

theorem readValue_list (hroom : inside "array" room = .ok inner) {t : Text}
    (h : ∀ more, skipSpace t ≠ .char ']' :: more) (fuel : Nat) :
    readValue (fuel + 1) room (.char '[' :: t) =
      (readItems fuel inner (skipSpace t)).map fun r => (.list r.1, r.2) := by
  rw [readValue, if_neg (by decide), if_pos rfl, hroom, Outcome.ok_bind]
  split
  · next more heq => exact absurd heq (h more)
  · cases readItems fuel inner (skipSpace t) <;> rfl

theorem printAt_list (depth : Nat) {items : List Value} (h : items ≠ []) (rest : Text) :
    printAt depth (.list items) ++ rest = .char '[' :: (newline (depth + 1) ++
      (itemsText (depth + 1) items ++ (newline depth ++ .char ']' :: rest))) := by
  cases items with
  | nil => exact absurd rfl h
  | cons v vs => simp [printAt, itemsText, Text.ofString]

theorem readsBack_list (hroom : inside "array" room = .ok inner) {items : List Value}
    (hkept : ∀ v ∈ items, Kept inner v) (hread : ∀ v ∈ items, ReadsBack inner v) :
    ReadsBack room (.list items) := by
  intro depth fuel rest hfuel _
  obtain ⟨fuel, rfl⟩ := Nat.exists_eq_add_one.2 (Nat.zero_lt_of_lt hfuel)
  by_cases hne : items = []
  · subst hne
    change readValue (fuel + 1) room (.char '[' :: .char ']' :: rest) = _
    rw [readValue, if_neg (by decide), if_pos rfl, hroom]
    rfl
  · have hlong : (itemsText (depth + 1) items).length + 1 < fuel := by
      have hlength := congrArg List.length (printAt_list depth hne [])
      simp only [List.length_append, List.length_cons, List.length_nil] at hlength
      omega
    rw [printAt_list depth hne, readValue_list hroom, skipSpace_itemsText (depth + 1) hne hkept,
      readItems_itemsText (depth + 1) depth hne hkept hread hlong]
    · rfl
    · rw [skipSpace_itemsText (depth + 1) hne hkept]
      obtain ⟨c, t, hitems, -, hbracket⟩ := exists_itemsText_eq_cons (depth + 1) hne hkept
      rintro more heq
      rw [hitems] at heq
      exact hbracket (List.cons.inj heq).1

/-! ### Objects -/

/-- The fields of an object as they are written between its braces. -/
def fieldsText (depth : Nat) : List (Text × Value) → Text
  | [] => []
  | (k, v) :: fs => printString k ++ ": " ++ printAt depth v ++ printFields depth fs

theorem printFields_cons (depth : Nat) (f : Text × Value) (fs : List (Text × Value)) :
    printFields depth (f :: fs) = .char ',' :: (newline depth ++ fieldsText depth (f :: fs)) := by
  simp [printFields, fieldsText, Text.ofString]

theorem exists_fieldsText_eq_cons (depth : Nat) {fields : List (Text × Value)} (hne : fields ≠ []) :
    ∃ t, fieldsText depth fields = .char '"' :: t := by
  cases fields with
  | nil => exact absurd rfl hne
  | cons f fs => exact ⟨_, by simp [fieldsText, printString]; rfl⟩

theorem skipSpace_fieldsText (depth : Nat) {fields : List (Text × Value)} (hne : fields ≠ []) (t : Text) :
    skipSpace (newline depth ++ (fieldsText depth fields ++ t)) = fieldsText depth fields ++ t := by
  obtain ⟨more, hfields⟩ := exists_fieldsText_eq_cons depth hne
  rw [skipSpace_newline, hfields, List.cons_append, skipSpace_cons rfl]

/-- A field is read, and then what stands behind it is looked at. -/
theorem readFields_field (s : String) {v : Value} (hkept : Kept room v) (hread : ReadsBack room v) (depth : Nat)
    {fuel : Nat} (hfuel : (printAt depth v).length < fuel) {behind : Text} (hbehind : EndsValue behind)
    (before : List (Text × Value)) :
    readFields (fuel + 1) room before (printString s ++ (.char ':' :: .char ' ' :: (printAt depth v ++ behind))) =
      match skipSpace behind with
      | .char '\x7d' :: rest => .ok (Association.put (s : Text) v before, rest)
      | .char ',' :: rest => readFields fuel room (Association.put (s : Text) v before) (skipSpace rest)
      | rest => .error (.syntaxAt "Expecting ',' delimiter" rest) := by
  obtain ⟨inside, hprint, hname⟩ := readString_printString s.toList
    (.char ':' :: .char ' ' :: (printAt depth v ++ behind))
  have hprint : printString s ++ (.char ':' :: .char ' ' :: (printAt depth v ++ behind)) =
    .char '"' :: inside := hprint
  have hspace : skipSpace (.char ' ' :: (printAt depth v ++ behind)) = printAt depth v ++ behind := by
    obtain ⟨c, t, hv, hc, -⟩ := hkept.exists_printAt_eq_cons depth
    rw [hv]
    exact skipSpace_cons hc _
  rw [hprint, readFields]
  simp only [hname, bind, Except.bind, skipSpace_cons (c := .char ':') rfl, hspace,
    hread depth fuel behind hfuel hbehind]
  rfl

theorem fieldsText_append (depth : Nat) (k : Text) (v : Value) (fs : List (Text × Value)) (t : Text) :
    fieldsText depth ((k, v) :: fs) ++ t =
      printString k ++ (.char ':' :: .char ' ' :: (printAt depth v ++ (printFields depth fs ++ t))) := by
  simp [fieldsText, Text.ofString]

/-- The fields of an object are read up to its closing brace. -/
theorem readFields_fieldsText (depth outer : Nat) {before fields : List (Text × Value)} (hne : fields ≠ [])
    (hnames : ∀ f ∈ fields, ∃ s : String, f.1 = s) (hnodup : ((before ++ fields).map Prod.fst).Nodup)
    (hkept : ∀ f ∈ fields, Kept room f.2) (hread : ∀ f ∈ fields, ReadsBack room f.2) {fuel : Nat}
    (hfuel : (fieldsText depth fields).length + 1 < fuel) (rest : Text) :
    readFields fuel room before (fieldsText depth fields ++ (newline outer ++ .char '\x7d' :: rest)) =
      .ok (before ++ fields, rest) := by
  induction fields generalizing before fuel with
  | nil => exact absurd rfl hne
  | cons f fs ih =>
    obtain ⟨k, v⟩ := f
    obtain ⟨fuel, rfl⟩ := Nat.exists_eq_add_one.2 (Nat.zero_lt_of_lt hfuel)
    obtain ⟨s, rfl⟩ : ∃ s : String, k = s := hnames (k, v) List.mem_cons_self
    have hv : Kept room v ∧ ReadsBack room v :=
      ⟨hkept (s, v) List.mem_cons_self, hread (s, v) List.mem_cons_self⟩
    -- the name is new to the fields before it, so the field goes behind them
    have hnew : (s : Text) ∉ before.map Prod.fst := by
      rw [List.map_append, List.nodup_append] at hnodup
      exact fun hmem => hnodup.2.2 _ hmem _ List.mem_cons_self rfl
    have hlong : (printAt depth v).length + (printFields depth fs).length + 1 < fuel := by
      simp only [fieldsText, List.length_append] at hfuel
      have hcolon : (": " : Text).length = 2 := rfl
      omega
    rw [fieldsText_append]
    cases fs with
    | nil =>
      rw [printFields, List.nil_append, readFields_field s hv.1 hv.2 depth (by omega)
        (endsValue_newline outer _), skipSpace_newline, skipSpace_cons rfl]
      simp only [Association.put_of_not_mem hnew]
    | cons f fs =>
      have hmore : readFields fuel room (before ++ [((s : Text), v)])
          (fieldsText depth (f :: fs) ++ (newline outer ++ .char '\x7d' :: rest)) =
            .ok (before ++ ((s : Text), v) :: f :: fs, rest) := by
        rw [List.append_cons before (s, v) (f :: fs)] at hnodup ⊢
        refine ih (List.cons_ne_nil _ _) (fun g hg => hnames g (List.mem_cons_of_mem _ hg)) hnodup
          (fun g hg => hkept g (List.mem_cons_of_mem _ hg))
          (fun g hg => hread g (List.mem_cons_of_mem _ hg)) ?_
        rw [printFields_cons, List.length_cons, List.length_append] at hlong
        omega
      rw [readFields_field s hv.1 hv.2 depth (by omega) (.inr ⟨_, .inl (by rw [printFields_cons]; rfl)⟩),
        printFields_cons, List.cons_append, skipSpace_cons rfl]
      simp only [Association.put_of_not_mem hnew]
      rw [List.append_assoc, skipSpace_fieldsText depth (List.cons_ne_nil f fs), hmore]

theorem readValue_object (hroom : inside "object" room = .ok inner) {t : Text}
    (h : ∀ more, skipSpace t ≠ .char '\x7d' :: more) (fuel : Nat) :
    readValue (fuel + 1) room (.char '\x7b' :: t) =
      (readFields fuel inner [] (skipSpace t)).map fun r => (.object r.1, r.2) := by
  rw [readValue, if_neg (by decide), if_neg (by decide), if_pos rfl, hroom, Outcome.ok_bind]
  split
  · next more heq => exact absurd heq (h more)
  · cases readFields fuel inner [] (skipSpace t) <;> rfl

theorem printAt_object (depth : Nat) {fields : List (Text × Value)} (h : fields ≠ []) (rest : Text) :
    printAt depth (.object fields) ++ rest = .char '\x7b' :: (newline (depth + 1) ++
      (fieldsText (depth + 1) fields ++ (newline depth ++ .char '\x7d' :: rest))) := by
  cases fields with
  | nil => exact absurd rfl h
  | cons f fs => simp [printAt, fieldsText, Text.ofString]

theorem readsBack_object (hroom : inside "object" room = .ok inner) {fields : List (Text × Value)}
    (hnames : ∀ f ∈ fields, ∃ s : String, f.1 = s) (hnodup : (fields.map Prod.fst).Nodup)
    (hkept : ∀ f ∈ fields, Kept inner f.2) (hread : ∀ f ∈ fields, ReadsBack inner f.2) :
    ReadsBack room (.object fields) := by
  intro depth fuel rest hfuel _
  obtain ⟨fuel, rfl⟩ := Nat.exists_eq_add_one.2 (Nat.zero_lt_of_lt hfuel)
  by_cases hne : fields = []
  · subst hne
    change readValue (fuel + 1) room (.char '\x7b' :: .char '\x7d' :: rest) = _
    rw [readValue, if_neg (by decide), if_neg (by decide), if_pos rfl, hroom]
    rfl
  · have hnew : (([] ++ fields).map Prod.fst).Nodup := hnodup
    have hlong : (fieldsText (depth + 1) fields).length + 1 < fuel := by
      have hlength := congrArg List.length (printAt_object depth hne [])
      simp only [List.length_append, List.length_cons, List.length_nil] at hlength
      omega
    rw [printAt_object depth hne, readValue_object hroom, skipSpace_fieldsText (depth + 1) hne,
      readFields_fieldsText (depth + 1) depth hne hnames hnew hkept hread hlong]
    · rfl
    · rw [skipSpace_fieldsText (depth + 1) hne]
      obtain ⟨t, hfields⟩ := exists_fieldsText_eq_cons (depth + 1) hne
      rintro more heq
      rw [hfields] at heq
      cases heq

/-! ### Values -/

theorem Kept.readsBack {v : Value} (h : Kept room v) : ReadsBack room v := by
  induction h with
  | null => exact readsBack_null
  | bool b => exact readsBack_bool b
  | int h => exact readsBack_int h
  | text s => exact readsBack_text s
  | list hroom hkept hread => exact readsBack_list hroom hkept hread
  | object hroom hnames hnodup hkept hread => exact readsBack_object hroom hnames hnodup hkept hread

/-- What is written over several lines is read back. -/
theorem Kept.read_printIndented {v : Value} (h : Kept room v) : read room (printIndented v) = .ok v := by
  obtain ⟨c, t, hprint, hspace, -, hmark⟩ := h.exists_printAt_eq_cons 0
  have hread := h.readsBack 0 (2 * (printAt 0 v).length + 2) [] (by omega) (.inl rfl)
  rw [List.append_nil, hprint] at hread
  rw [read, printIndented, hprint, skipSpace_cons hspace]
  · simp only [hread, bind, Except.bind]
    rfl
  · rintro t' heq
    exact hmark (List.cons.inj (hprint.symm.trans heq)).1

end SchemaGate.Json
