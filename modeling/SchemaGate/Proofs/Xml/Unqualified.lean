import SchemaGate.Proofs.Outcome
import SchemaGate.Proofs.Xml.Names
import SchemaGate.Proofs.Xml.QualifiedName

/-! Trees without namespaces.

    An element is cut down to its local name in the text of its name. Where neither its namespace holds a
    closing brace nor its local part an opening one, that is the local part as it was
    (`Name.withoutSpace_eq_ok`). So what is left of a tree has the same elements in the same order, all of
    them without a namespace (`Node.heads_withoutNamespaces`). -/

namespace SchemaGate.Xml

namespace Name

/-- The namespace of the name, if it has one, holds no closing brace. -/
def Separable (n : Name) : Prop := ∀ u ∈ n.space, .char '\x7d' ∉ u

theorem braced?_of_unbraced {t : Text} (h : Unbraced t) : braced? t = none := by
  unfold braced?
  split
  · exact absurd List.mem_cons_self h
  · rfl

/-- A name without braces is taken as it is. -/
theorem ofTag_eq_ok {t : Text} (ht : Unbraced t) {n : Name} (h : ofTag t = .ok n) :
    n = ⟨none, none, t⟩ := by
  simp only [ofTag, braced?_of_unbraced ht, Option.bind_none] at h
  split at h <;> cases h
  rfl

/-- Of a namespace without a closing brace nothing is left. -/
theorem withoutSpace_of_separable {n : Name} (hspace : n.Separable) (hsome : n.space ≠ none) :
    n.withoutSpace = ofTag n.part := by
  obtain ⟨u, hu⟩ := Option.ne_none_iff_exists'.1 hsome
  rw [withoutSpace_of_space hu, remainder_of_not_mem (hspace u hu), List.nil_append]

/-- What is left of a name is its local part. -/
theorem withoutSpace_eq_ok {n n' : Name} (hspace : n.Separable) (hpart : Unbraced n.part)
    (h : n.withoutSpace = .ok n') : n'.space = none ∧ n'.part = n.part := by
  by_cases hsome : n.space = none
  · rw [withoutSpace, hsome] at h
    cases h
    exact ⟨hsome, rfl⟩
  · rw [withoutSpace_of_separable hspace hsome] at h
    rw [ofTag_eq_ok hpart h]
    exact ⟨rfl, rfl⟩

/-- A name in a namespace can be cut down if its local part is a plain name, and not else. -/
theorem withoutSpace_eq {n : Name} (hspace : n.Separable) (hpart : Unbraced n.part)
    (hsome : n.space ≠ none) :
    n.withoutSpace =
      if isPlainName (Text.chars n.part) then .ok ⟨none, none, n.part⟩ else .error (.invalidTag n.part) := by
  rw [withoutSpace_of_separable hspace hsome]
  simp only [ofTag, braced?_of_unbraced hpart, Option.bind_none]

theorem exists_withoutSpace_iff {n : Name} (hspace : n.Separable) (hpart : Unbraced n.part) :
    (∃ n', n.withoutSpace = .ok n') ↔ (n.space ≠ none → isPlainName (Text.chars n.part) = true) := by
  by_cases hsome : n.space = none
  · have hwhole : n.withoutSpace = .ok n := by rw [withoutSpace, hsome]
    exact iff_of_true ⟨n, hwhole⟩ fun hne => absurd hsome hne
  · rw [withoutSpace_eq hspace hpart hsome]
    split
    · next hplain => exact iff_of_true ⟨_, rfl⟩ fun _ => hplain
    · next hnot =>
      refine iff_of_false ?_ fun h => hnot (h hsome)
      rintro ⟨_, h⟩
      cases h

/-- A name cannot be cut down only if what is left is no name. -/
theorem invalidTag_of_withoutSpace {n : Name} {f : Failure} (h : n.withoutSpace = .error f) :
    ∃ part, f = .invalidTag part := by
  cases hspace : n.space with
  | none =>
    rw [withoutSpace, hspace] at h
    cases h
  | some u =>
    rw [withoutSpace_of_space hspace, ofTag] at h
    split at h
    split at h <;> cases h
    exact ⟨_, rfl⟩

/-- The name can be cut down, and then is its local part without a namespace. -/
def Bared (n : Name) : Prop := ∃ n', n.withoutSpace = .ok n' ∧ n'.space = none ∧ n'.part = n.part

/-- What is seen of a name that was cut down. -/
def seen (outcome : Except Failure Name) : Option (Option Text × Text) :=
  outcome.toOption.map fun n => (n.space, n.part)

theorem bared_iff_seen {n : Name} : n.Bared ↔ seen n.withoutSpace = some (none, n.part) := by
  rw [Bared]
  cases n.withoutSpace <;> simp [seen, Except.toOption]

end Name

/-- A prefix that is chosen for an element changes neither its namespace nor its local part. -/
theorem Head.name_prefixed (scope : Scope) (next : Nat) (h : Head) :
    (h.prefixed scope next).1.name.space = h.name.space ∧
      (h.prefixed scope next).1.name.part = h.name.part := by
  unfold Head.prefixed
  split
  · exact ⟨rfl, rfl⟩
  · dsimp only
    split
    · exact ⟨rfl, rfl⟩
    · split <;> exact ⟨rfl, rfl⟩

namespace Node

/-! ### Renaming -/

/-- What is left of each name is a name. -/
def LeavesNames (heads : List Head) : Prop := ∀ h ∈ heads, ∃ name, h.name.withoutSpace = .ok name

mutual

/-- Renaming fails if what is left of some name is none, and only then. -/
theorem renamed_cases (n : Node) :
    (∃ n', n.renamed = .ok n' ∧ LeavesNames n.heads) ∨
      ∃ f, n.renamed = .error f ∧ ∃ h ∈ n.heads, h.name.withoutSpace = .error f := by
  match n with
  | .element head children =>
    cases hname : head.name.withoutSpace with
    | error f =>
      right
      exact ⟨f, by simp [renamed, hname, bind, Except.bind], head, List.mem_cons_self, hname⟩
    | ok name =>
      rcases allRenamed_cases children with ⟨children', hrest, hall⟩ | ⟨f, hrest, h, hmem, hf⟩
      · left
        refine ⟨.element { head with name := name } children', ?_, ?_⟩
        · simp [renamed, hname, hrest, bind, Except.bind, pure, Except.pure]
        · exact List.forall_mem_cons.2 ⟨⟨name, hname⟩, hall⟩
      · right
        refine ⟨f, ?_, h, List.mem_cons_of_mem _ hmem, hf⟩
        simp [renamed, hname, hrest, bind, Except.bind]
  | .text _ | .comment _ | .instruction _ _ => exact .inl ⟨_, rfl, nofun⟩

theorem allRenamed_cases (ns : List Node) :
    (∃ ns', allRenamed ns = .ok ns' ∧ LeavesNames (headsOf ns)) ∨
      ∃ f, allRenamed ns = .error f ∧ ∃ h ∈ headsOf ns, h.name.withoutSpace = .error f := by
  match ns with
  | [] => exact .inl ⟨[], rfl, nofun⟩
  | n :: rest =>
    rcases renamed_cases n with ⟨n', hn, hnode⟩ | ⟨f, hn, h, hmem, hf⟩
    · rcases allRenamed_cases rest with ⟨rest', hrest, hall⟩ | ⟨f, hrest, h, hmem, hf⟩
      · left
        refine ⟨n' :: rest', ?_, List.forall_mem_append.2 ⟨hnode, hall⟩⟩
        simp [allRenamed, hn, hrest, bind, Except.bind, pure, Except.pure]
      · right
        refine ⟨f, ?_, h, List.mem_append_right _ hmem, hf⟩
        simp [allRenamed, hn, hrest, bind, Except.bind]
    · right
      refine ⟨f, ?_, h, List.mem_append_left _ hmem, hf⟩
      simp [allRenamed, hn, bind, Except.bind]

end

/-- A tree has one without namespaces, or what is left of some name is none. -/
theorem withoutNamespaces_cases (n : Node) :
    (∃ n', n.withoutNamespaces = .ok n' ∧ LeavesNames n.heads) ∨
      ∃ part, n.withoutNamespaces = .error (.invalidTag part) ∧ ¬ LeavesNames n.heads := by
  rcases n.renamed_cases with ⟨n', hrenamed, hall⟩ | ⟨f, hrenamed, h, hmem, hf⟩
  · left
    exact ⟨_, by simp [withoutNamespaces, hrenamed, bind, Except.bind, pure, Except.pure]; rfl, hall⟩
  · right
    obtain ⟨part, rfl⟩ := Name.invalidTag_of_withoutSpace hf
    refine ⟨part, by simp [withoutNamespaces, hrenamed, bind, Except.bind], ?_⟩
    intro hall
    obtain ⟨name, hname⟩ := hall h hmem
    rw [hf] at hname
    cases hname

/-- The names can be cut down to their local parts. -/
def Cuttable (heads : List Head) : Prop := ∀ h ∈ heads, Unbraced h.name.part ∧ h.name.Separable

/-- If names are cut to their local parts, it is one of these that is refused. -/
theorem exists_invalidTag {n : Node} (hcut : Cuttable n.heads) {f : Failure}
    (h : n.withoutNamespaces = .error f) :
    ∃ e ∈ n.heads, e.name.space ≠ none ∧ isPlainName (Text.chars e.name.part) = false ∧
      f = .invalidTag e.name.part := by
  rcases n.renamed_cases with ⟨n', hrenamed, -⟩ | ⟨g, hrenamed, e, hmem, he⟩
  · rw [withoutNamespaces, hrenamed] at h
    cases h
  · rw [withoutNamespaces, hrenamed] at h
    cases h
    by_cases hsome : e.name.space = none
    · rw [Name.withoutSpace, hsome] at he
      cases he
    · rw [Name.withoutSpace_eq (hcut e hmem).2 (hcut e hmem).1 hsome] at he
      split at he
      · cases he
      · next hnot =>
        cases he
        exact ⟨e, hmem, hsome, by simpa using hnot, rfl⟩

theorem leavesNames_iff {heads : List Head} (hcut : Cuttable heads) :
    LeavesNames heads ↔
      ∀ h ∈ heads, h.name.space ≠ none → isPlainName (Text.chars h.name.part) = true :=
  forall₂_congr fun h hmem => Name.exists_withoutSpace_iff (hcut h hmem).2 (hcut h hmem).1

mutual

/-- To rename a tree is to cut down its names one by one. -/
theorem names_renamed {n n' : Node} (h : n.renamed = .ok n') :
    n.heads.map (fun e => e.name.withoutSpace) = n'.heads.map fun e => .ok e.name := by
  match n with
  | .element head children =>
    rw [renamed] at h
    obtain ⟨name, hname, h⟩ := Outcome.bind_eq_ok.1 h
    obtain ⟨children', hrest, h⟩ := Outcome.bind_eq_ok.1 h
    cases h
    simp [heads, hname, names_allRenamed hrest]
  | .text _ | .comment _ | .instruction _ _ =>
    cases h
    rfl

theorem names_allRenamed {ns ns' : List Node} (h : allRenamed ns = .ok ns') :
    (headsOf ns).map (fun e => e.name.withoutSpace) = (headsOf ns').map fun e => .ok e.name := by
  match ns with
  | [] =>
    cases h
    rfl
  | n :: rest =>
    rw [allRenamed] at h
    obtain ⟨n', hn, h⟩ := Outcome.bind_eq_ok.1 h
    obtain ⟨rest', hrest, h⟩ := Outcome.bind_eq_ok.1 h
    cases h
    simp [headsOf, names_renamed hn, names_allRenamed hrest]

end

/-- Renaming keeps the local parts, and leaves no namespace, iff it does so with each name. -/
theorem heads_renamed_iff {n n' : Node} (h : n.renamed = .ok n') :
    n'.heads.map (fun h => (h.name.space, h.name.part)) = n.heads.map (fun h => (none, h.name.part)) ↔
      ∀ e ∈ n.heads, e.name.Bared := by
  have hseen : n.heads.map (fun e => Name.seen e.name.withoutSpace) =
      n'.heads.map fun e => some (e.name.space, e.name.part) := by
    have hnames := congrArg (List.map Name.seen) (names_renamed h)
    rwa [List.map_map, List.map_map] at hnames
  rw [← List.map_inj_right fun _ _ => Option.some.inj, List.map_map, List.map_map]
  refine (Eq.congr_left hseen.symm).trans ?_
  rw [List.map_inj_left]
  exact forall₂_congr fun e _ => Name.bared_iff_seen.symm

theorem bared_of_renamed {n n' : Node} (hcut : Cuttable n.heads) (h : n.renamed = .ok n') :
    ∀ e ∈ n.heads, e.name.Bared := by
  intro e he
  have hmem := List.mem_map_of_mem (f := fun e : Head => e.name.withoutSpace) he
  rw [names_renamed h] at hmem
  obtain ⟨e', -, hname⟩ := List.mem_map.1 hmem
  exact ⟨e'.name, hname.symm, Name.withoutSpace_eq_ok (hcut e he).2 (hcut e he).1 hname.symm⟩

/-- Renaming keeps the elements and their local parts, and leaves no namespace. -/
theorem heads_renamed {n n' : Node} (hcut : Cuttable n.heads) (h : n.renamed = .ok n') :
    n'.heads.map (fun h => (h.name.space, h.name.part)) = n.heads.map fun h => (none, h.name.part) :=
  (heads_renamed_iff h).2 (bared_of_renamed hcut h)

/-! ### Prefixes and declarations -/

mutual

/-- Prefixes are chosen for the elements as they are. -/
theorem heads_prefixed (scope : Scope) (next : Nat) (n : Node) :
    (n.prefixed scope next).1.heads.map (fun h => (h.name.space, h.name.part)) =
      n.heads.map fun h => (h.name.space, h.name.part) := by
  match n with
  | .element head children => simp [prefixed, heads, Head.name_prefixed, headsOf_allPrefixed]
  | .text _ | .comment _ | .instruction _ _ => rfl

theorem headsOf_allPrefixed (scope : Scope) (next : Nat) (ns : List Node) :
    (headsOf (allPrefixed scope next ns).1).map (fun h => (h.name.space, h.name.part)) =
      (headsOf ns).map fun h => (h.name.space, h.name.part) := by
  match ns with
  | [] => rfl
  | n :: rest => simp [allPrefixed, headsOf, heads_prefixed, headsOf_allPrefixed]

end

mutual

/-- Dropping declarations keeps the elements and their names. -/
theorem heads_tidied (n : Node) : n.tidied.heads.map Head.name = n.heads.map Head.name := by
  match n with
  | .element head children => simp [tidied, heads, headsOf_allTidied children]
  | .text _ | .comment _ | .instruction _ _ => rfl

theorem headsOf_allTidied (ns : List Node) :
    (headsOf (allTidied ns)).map Head.name = (headsOf ns).map Head.name := by
  match ns with
  | [] => rfl
  | n :: rest => simp [allTidied, headsOf, heads_tidied n, headsOf_allTidied rest]

end

theorem heads_withoutNamespaces_iff {n n' : Node} (h : n.withoutNamespaces = .ok n') :
    n'.heads.map (fun h => (h.name.space, h.name.part)) = n.heads.map (fun h => (none, h.name.part)) ↔
      ∀ e ∈ n.heads, e.name.Bared := by
  rw [withoutNamespaces] at h
  obtain ⟨n₁, hrenamed, h⟩ := Outcome.bind_eq_ok.1 h
  cases h
  have hnames := congrArg (List.map fun m : Name => (m.space, m.part)) (n₁.prefixed [] 0).1.heads_tidied
  simp only [List.map_map] at hnames
  exact (Eq.congr_left (hnames.trans (n₁.heads_prefixed [] 0))).trans (heads_renamed_iff hrenamed)

/-- A tree without namespaces has the same elements in the same order, none of them in a namespace. -/
theorem heads_withoutNamespaces {n n' : Node} (hcut : Cuttable n.heads)
    (h : n.withoutNamespaces = .ok n') :
    n'.heads.map (fun h => (h.name.space, h.name.part)) = n.heads.map fun h => (none, h.name.part) := by
  refine (heads_withoutNamespaces_iff h).2 ?_
  rw [withoutNamespaces] at h
  obtain ⟨n₁, hrenamed, -⟩ := Outcome.bind_eq_ok.1 h
  exact bared_of_renamed hcut hrenamed

end Node

end SchemaGate.Xml
