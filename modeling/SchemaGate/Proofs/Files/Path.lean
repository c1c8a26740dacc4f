import SchemaGate.Files.Path

/-! Written paths.

    Every path that is read has one written form: what reads that form reads the same path
    (`ofText_text`). So it does not matter whether a path or the path read from its text is opened. -/

namespace SchemaGate.Path

/-- A path as it is read from a text. -/
structure Proper (p : Path) : Prop where
  root : p.root = [] ∨ p.root = [.char '/'] ∨ p.root = [.char '/', .char '/']
  names : ∀ name ∈ p.names, name ≠ [] ∧ name ≠ [.char '.'] ∧ .char '/' ∉ name

/-! ### Names -/

theorem splitSlashes_eq_splitOn (t : Text) : splitSlashes t = t.splitOn (.char '/') := by
  induction t with
  | nil => rfl
  | cons c rest ih =>
    rw [splitSlashes, List.splitOn_cons_eq_if_modifyHead, ih]
    by_cases hc : c = .char '/'
    · simp [hc]
    · obtain ⟨piece, pieces, hsplit⟩ :=
        List.exists_cons_of_ne_nil (List.splitOn_ne_nil (.char '/') rest)
      simp [hc, hsplit]

theorem slash_not_mem_splitSlashes {t name : Text} (h : name ∈ splitSlashes t) : .char '/' ∉ name := by
  induction t generalizing name with
  | nil =>
    obtain rfl := List.mem_singleton.1 h
    exact List.not_mem_nil
  | cons c rest ih =>
    rw [splitSlashes] at h
    split at h
    · rcases List.mem_cons.1 h with rfl | h
      · exact List.not_mem_nil
      · exact ih h
    · next hc =>
      split at h
      · next piece pieces hsplit =>
        rcases List.mem_cons.1 h with rfl | h
        · have hpiece := ih (hsplit ▸ List.mem_cons_self)
          simpa [Ne.symm hc] using hpiece
        · exact ih (hsplit ▸ List.mem_cons_of_mem _ h)
      · obtain rfl := List.mem_singleton.1 h
        simpa using Ne.symm hc

/-- A slash in front adds no name. -/
theorem namesOf_slash (t : Text) : namesOf (.char '/' :: t) = namesOf t := by
  simp [namesOf, splitSlashes]

/-- Names are read back from between the slashes. -/
theorem namesOf_join {names : List Text}
    (h : ∀ name ∈ names, name ≠ [] ∧ name ≠ [.char '.'] ∧ .char '/' ∉ name) :
    namesOf (Text.join "/" names) = names := by
  by_cases hnames : names = []
  · subst hnames
    rfl
  · have hsplit : splitSlashes (Text.join "/" names) = names := by
      rw [splitSlashes_eq_splitOn]
      exact List.splitOn_intercalate _ (fun name hname => (h name hname).2.2) hnames
    rw [namesOf, hsplit, List.filter_eq_self]
    intro name hname
    simpa using ⟨(h name hname).1, (h name hname).2.1⟩

/-- No slash stands in front of names. -/
theorem takeWhile_join {names : List Text}
    (h : ∀ name ∈ names, name ≠ [] ∧ name ≠ [.char '.'] ∧ .char '/' ∉ name) :
    (Text.join "/" names).takeWhile (· = .char '/') = [] := by
  cases names with
  | nil => rfl
  | cons name names =>
    obtain ⟨hname, -, hslash⟩ := h name List.mem_cons_self
    obtain ⟨c, name, rfl⟩ := List.exists_cons_of_ne_nil hname
    have hc : c ≠ .char '/' := fun hc => hslash (hc ▸ List.mem_cons_self)
    cases names <;> simp [Text.join, hc]

/-! ### Reading what is written -/

theorem proper_ofText (t : Text) : (ofText t).Proper := by
  constructor
  · have hall : ∀ c ∈ t.takeWhile (· = .char '/'), c = .char '/' := fun c hc => by
      simpa using List.all_eq_true.1 (List.all_takeWhile (l := t)) c hc
    have hslashes := List.eq_replicate_of_mem hall
    rw [ofText]
    generalize t.takeWhile (· = .char '/') = slashes at hslashes
    rw [hslashes]
    match slashes.length with
    | 0 => exact .inl rfl
    | 1 => exact .inr (.inl rfl)
    | 2 => exact .inr (.inr rfl)
    | n + 3 => exact .inr (.inl rfl)
  · intro name hname
    obtain ⟨hmem, hkept⟩ := List.mem_filter.1 hname
    have hkept : name ≠ [] ∧ name ≠ [.char '.'] := by simpa using hkept
    exact ⟨hkept.1, hkept.2, slash_not_mem_splitSlashes hmem⟩

theorem ofText_text_of_proper {p : Path} (h : p.Proper) : ofText p.text = p := by
  obtain ⟨root, names⟩ := p
  have hwhile : (Text.join "/" names).takeWhile (· = .char '/') = [] := takeWhile_join h.names
  have hnames : namesOf (Text.join "/" names) = names := namesOf_join h.names
  by_cases hempty : root.isEmpty && names.isEmpty
  · obtain ⟨rfl, rfl⟩ : root = [] ∧ names = [] := by simpa using hempty
    rfl
  · rw [text, if_neg hempty]
    obtain hroot | hroot | hroot := h.root <;> (obtain rfl : root = _ := hroot) <;>
      simp [ofText, hwhile, namesOf_slash, hnames]

/-- What reads a written path reads the path. -/
theorem ofText_text (t : Text) : ofText (ofText t).text = ofText t :=
  ofText_text_of_proper (proper_ofText t)

end SchemaGate.Path
