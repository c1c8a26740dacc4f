import SchemaGate.Proofs.Xml.Unqualified

/-! What is left of a tree without its namespaces.

    Nothing but names and declarations changes: every element takes its local name and keeps the
    declarations that an attribute still relies on (`Stripped`). Once no element is in a namespace only
    attributes rely on declarations (`reliesOn_iff`), and no declaration that is dropped hid another one
    (`reliesOn_tidied`). So a tree that was stripped is its own stripped tree. -/

namespace SchemaGate.Xml.Node

/-! ### What is left -/

/-- An attribute in the tree relies on the declaration of a prefix outside of it. -/
inductive AttributeReliesOn (p : Option Text) : Node → Prop
  | here {head : Head} {children : List Node} {a : Attribute} (ha : a ∈ head.attributes)
      (hname : a.name.reliesOn p = true) (houtside : head.redeclares p = false) :
      AttributeReliesOn p (.element head children)
  | inside {head : Head} {children : List Node} {n : Node} (hn : n ∈ children)
      (hbelow : AttributeReliesOn p n) (houtside : head.redeclares p = false) :
      AttributeReliesOn p (.element head children)

/-- An attribute of an element or of one below it relies on what the element declares for a prefix. -/
def NeededBy (p : Option Text) (head : Head) (children : List Node) : Prop :=
  (∃ a ∈ head.attributes, a.name.reliesOn p = true) ∨ ∃ n ∈ children, AttributeReliesOn p n

/-- What an element keeps: its local name, which is its whole name now, its attributes, and of its
declarations those that an attribute needs. -/
structure KeptHead (head head' : Head) (children' : List Node) : Prop where
  space : head'.name.space = none
  part : head'.name.part = head.name.part
  attributes : head'.attributes = head.attributes
  line : head'.line = head.line
  inOrder : head'.declarations.Sublist head.declarations
  needed : ∀ d ∈ head.declarations, d ∈ head'.declarations ↔ NeededBy d.declares head' children'

mutual

/-- A tree and what is left of it: the same nodes in the same order, with the heads that are kept. -/
inductive Stripped : Node → Node → Prop
  | element {head head' : Head} {children children' : List Node} (hhead : KeptHead head head' children')
      (hchildren : AllStripped children children') :
      Stripped (.element head children) (.element head' children')
  | text (content : Text) : Stripped (.text content) (.text content)
  | comment (content : Text) : Stripped (.comment content) (.comment content)
  | instruction (target content : Text) :
      Stripped (.instruction target content) (.instruction target content)

/-- Trees and what is left of them, one by one. -/
inductive AllStripped : List Node → List Node → Prop
  | nil : AllStripped [] []
  | cons {n n' : Node} {rest rest' : List Node} (hn : Stripped n n') (hrest : AllStripped rest rest') :
      AllStripped (n :: rest) (n' :: rest')

end

/-! ### Trees whose elements are in no namespace -/

/-- No element is in a namespace. -/
def Bare (heads : List Head) : Prop := ∀ h ∈ heads, h.name.space = none

mutual

theorem renamed_of_bare {n : Node} (h : Bare n.heads) : n.renamed = .ok n := by
  match n with
  | .element head children =>
    obtain ⟨hhead, hchildren⟩ := List.forall_mem_cons.1 h
    have hname : head.name.withoutSpace = .ok head.name := by rw [Name.withoutSpace, hhead]
    simp [renamed, hname, allRenamed_of_bare hchildren, bind, Except.bind, pure, Except.pure]
  | .text _ | .comment _ | .instruction _ _ => rfl

theorem allRenamed_of_bare {ns : List Node} (h : Bare (headsOf ns)) : allRenamed ns = .ok ns := by
  match ns with
  | [] => rfl
  | n :: rest =>
    obtain ⟨hnode, hrest⟩ := List.forall_mem_append.1 h
    simp [allRenamed, renamed_of_bare hnode, allRenamed_of_bare hrest, bind, Except.bind, pure, Except.pure]

end

mutual

/-- Elements that are in no namespace are given no prefix. -/
theorem prefixed_of_bare {n : Node} (h : Bare n.heads) (scope : Scope) (next : Nat) :
    n.prefixed scope next = (n, next) := by
  match n with
  | .element head children =>
    obtain ⟨hhead, hchildren⟩ := List.forall_mem_cons.1 h
    have hname : head.prefixed scope next = (head, next) := by rw [Head.prefixed, hhead]
    rw [prefixed, hname]
    dsimp only
    rw [allPrefixed_of_bare hchildren]
  | .text _ | .comment _ | .instruction _ _ => rfl

theorem allPrefixed_of_bare {ns : List Node} (h : Bare (headsOf ns)) (scope : Scope) (next : Nat) :
    allPrefixed scope next ns = (ns, next) := by
  match ns with
  | [] => rfl
  | n :: rest =>
    obtain ⟨hnode, hrest⟩ := List.forall_mem_append.1 h
    rw [allPrefixed, prefixed_of_bare hnode]
    dsimp only
    rw [allPrefixed_of_bare hrest]

end

/-- Where what is left of every name has no namespace, nothing remains but to drop declarations. -/
theorem withoutNamespaces_of_renamed {n n₁ : Node} (h : n.renamed = .ok n₁) (hbare : Bare n₁.heads) :
    n.withoutNamespaces = .ok n₁.tidied := by
  rw [withoutNamespaces, h]
  change Except.ok _ = _
  rw [prefixed_of_bare hbare]

theorem reliesOn_of_bare {head : Head} (h : head.name.space = none) (p : Option Text) :
    head.reliesOn p = true ↔ ∃ a ∈ head.attributes, a.name.reliesOn p = true := by
  simp [Head.reliesOn, Name.reliesOn, h]

mutual

/-- In a tree whose elements are in no namespace only attributes rely on declarations. -/
theorem reliesOn_iff {n : Node} (h : Bare n.heads) (p : Option Text) :
    n.reliesOn p = true ↔ AttributeReliesOn p n := by
  match n with
  | .element head children =>
    obtain ⟨hhead, hchildren⟩ := List.forall_mem_cons.1 h
    have hneeded : (head.reliesOn p || anyReliesOn p children) = true ↔ NeededBy p head children := by
      rw [Bool.or_eq_true, reliesOn_of_bare hhead, anyReliesOn_iff hchildren, NeededBy]
    rw [reliesOn, Bool.and_eq_true, hneeded, Bool.not_eq_true']
    constructor
    · rintro ⟨houtside, ⟨a, ha, hname⟩ | ⟨n, hn, hbelow⟩⟩
      · exact .here ha hname houtside
      · exact .inside hn hbelow houtside
    · rintro (⟨ha, hname, houtside⟩ | ⟨hn, hbelow, houtside⟩)
      · exact ⟨houtside, .inl ⟨_, ha, hname⟩⟩
      · exact ⟨houtside, .inr ⟨_, hn, hbelow⟩⟩
  | .text _ | .comment _ | .instruction _ _ => exact iff_of_false nofun nofun

theorem anyReliesOn_iff {ns : List Node} (h : Bare (headsOf ns)) (p : Option Text) :
    anyReliesOn p ns = true ↔ ∃ n ∈ ns, AttributeReliesOn p n := by
  match ns with
  | [] => exact iff_of_false nofun (by simp)
  | n :: rest =>
    obtain ⟨hnode, hrest⟩ := List.forall_mem_append.1 h
    rw [anyReliesOn, Bool.or_eq_true, reliesOn_iff hnode, anyReliesOn_iff hrest]
    simp only [List.mem_cons, exists_eq_or_imp]

end

/-! ### Dropped declarations -/

/-- The head with the declarations that a name in it or below relies on. -/
def tidiedHead (head : Head) (children : List Node) : Head :=
  { head with
    declarations := head.declarations.filter fun d =>
      head.reliesOn d.declares || anyReliesOn d.declares children }

theorem tidied_element (head : Head) (children : List Node) :
    (Node.element head children).tidied = .element (tidiedHead head children) (allTidied children) := rfl

theorem redeclares_tidiedHead (head : Head) (children : List Node) (p : Option Text) :
    (tidiedHead head children).redeclares p =
      (head.redeclares p && (head.reliesOn p || anyReliesOn p children)) := by
  rw [Bool.eq_iff_iff, Bool.and_eq_true]
  simp only [tidiedHead, Head.redeclares, List.any_eq_true, List.mem_filter, decide_eq_true_eq]
  constructor
  · rintro ⟨d, ⟨hd, hneeded⟩, rfl⟩
    exact ⟨⟨d, hd, rfl⟩, hneeded⟩
  · rintro ⟨⟨d, hd, rfl⟩, hneeded⟩
    exact ⟨d, ⟨hd, hneeded⟩, rfl⟩

mutual

/-- A declaration that is dropped hid no other one, since nothing relied on it. -/
theorem reliesOn_tidied (p : Option Text) (n : Node) : n.tidied.reliesOn p = n.reliesOn p := by
  match n with
  | .element head children =>
    have hhead : (tidiedHead head children).reliesOn p = head.reliesOn p := rfl
    rw [tidied_element, reliesOn, reliesOn, redeclares_tidiedHead, hhead, anyReliesOn_allTidied p children]
    cases head.redeclares p <;> cases head.reliesOn p <;> cases anyReliesOn p children <;> rfl
  | .text _ | .comment _ | .instruction _ _ => rfl

theorem anyReliesOn_allTidied (p : Option Text) (ns : List Node) :
    anyReliesOn p (allTidied ns) = anyReliesOn p ns := by
  match ns with
  | [] => rfl
  | n :: rest => rw [allTidied, anyReliesOn, anyReliesOn, reliesOn_tidied, anyReliesOn_allTidied]

end

theorem tidiedHead_tidiedHead (head : Head) (children : List Node) :
    tidiedHead (tidiedHead head children) (allTidied children) = tidiedHead head children := by
  have hhead (p : Option Text) : (tidiedHead head children).reliesOn p = head.reliesOn p := rfl
  rw [tidiedHead]
  simp only [hhead, anyReliesOn_allTidied]
  simp [tidiedHead]

mutual

theorem tidied_tidied (n : Node) : n.tidied.tidied = n.tidied := by
  match n with
  | .element head children =>
    rw [tidied_element, tidied_element, tidiedHead_tidiedHead, allTidied_allTidied children]
  | .text _ | .comment _ | .instruction _ _ => rfl

theorem allTidied_allTidied (ns : List Node) : allTidied (allTidied ns) = allTidied ns := by
  match ns with
  | [] => rfl
  | n :: rest => rw [allTidied, allTidied, tidied_tidied, allTidied_allTidied]

end

/-! ### Stripped trees -/

theorem bare_of_renamed {n n' : Node} (hcut : Cuttable n.heads) (h : n.renamed = .ok n') :
    Bare n'.heads := by
  intro e he
  have hmem := List.mem_map_of_mem (f := fun e : Head => (e.name.space, e.name.part)) he
  rw [heads_renamed hcut h] at hmem
  obtain ⟨_, -, heq⟩ := List.mem_map.1 hmem
  exact (congrArg Prod.fst heq).symm

theorem bare_tidied {n : Node} (h : Bare n.heads) : Bare n.tidied.heads := by
  intro e he
  have hmem := List.mem_map_of_mem (f := Head.name) he
  rw [heads_tidied] at hmem
  obtain ⟨e', he', heq⟩ := List.mem_map.1 hmem
  rw [← heq]
  exact h e' he'

theorem keptHead_tidiedHead {head : Head} {children : List Node}
    (h : Bare (Node.element head children).tidied.heads) :
    KeptHead head (tidiedHead head children) (allTidied children) := by
  rw [tidied_element] at h
  obtain ⟨hhead, hchildren⟩ := List.forall_mem_cons.1 h
  refine ⟨hhead, rfl, rfl, rfl, List.filter_sublist, fun d hd => ?_⟩
  rw [NeededBy, ← reliesOn_of_bare hhead, ← anyReliesOn_iff hchildren, anyReliesOn_allTidied]
  change d ∈ List.filter _ _ ↔ head.reliesOn d.declares = true ∨ _
  rw [List.mem_filter, Bool.or_eq_true]
  exact and_iff_right hd

mutual

/-- Renaming a tree and dropping what nothing relies on is to strip it. -/
theorem stripped_of_renamed {n n' : Node} (hcut : Cuttable n.heads) (h : n.renamed = .ok n') :
    Stripped n n'.tidied := by
  match n with
  | .element head children =>
    have hbare := bare_tidied (bare_of_renamed hcut h)
    obtain ⟨hhead, hchildren⟩ := List.forall_mem_cons.1 hcut
    rw [renamed] at h
    obtain ⟨name, hname, h⟩ := Outcome.bind_eq_ok.1 h
    obtain ⟨children', hrest, h⟩ := Outcome.bind_eq_ok.1 h
    cases h
    have hkept := keptHead_tidiedHead hbare
    have hpart := (Name.withoutSpace_eq_ok hhead.2 hhead.1 hname).2
    exact .element ⟨hkept.space, hpart, rfl, rfl, hkept.inOrder, hkept.needed⟩
      (allStripped_of_renamed hchildren hrest)
  | .text _ =>
    cases h
    exact .text _
  | .comment _ =>
    cases h
    exact .comment _
  | .instruction _ _ =>
    cases h
    exact .instruction _ _

theorem allStripped_of_renamed {ns ns' : List Node} (hcut : Cuttable (headsOf ns))
    (h : allRenamed ns = .ok ns') : AllStripped ns (allTidied ns') := by
  match ns with
  | [] =>
    cases h
    exact .nil
  | n :: rest =>
    obtain ⟨hnode, hnodes⟩ := List.forall_mem_append.1 hcut
    rw [allRenamed] at h
    obtain ⟨n', hn, h⟩ := Outcome.bind_eq_ok.1 h
    obtain ⟨rest', hrest, h⟩ := Outcome.bind_eq_ok.1 h
    cases h
    exact .cons (stripped_of_renamed hnode hn) (allStripped_of_renamed hnodes hrest)

end

/-- A tree that was stripped is its own stripped tree. -/
theorem withoutNamespaces_tidied {n : Node} (h : Bare n.heads) : n.tidied.withoutNamespaces = .ok n.tidied := by
  have hbare := bare_tidied h
  rw [withoutNamespaces_of_renamed (renamed_of_bare hbare) hbare, tidied_tidied]

/-- Stripping removes namespaces and nothing else. Where no namespace of an element holds a closing brace
and no local name an opening one, which no name of a document does, a tree has a stripped tree iff what
is left of every name in a namespace is a plain name; else one of those that are none is refused. What
it has is stripped, and is not changed by stripping it once more. -/
theorem strips_only_namespaces {n : Node} (hcut : Cuttable n.heads) :
    ((∃ n', n.withoutNamespaces = .ok n') ↔
      ∀ e ∈ n.heads, e.name.space ≠ none → isPlainName (Text.chars e.name.part) = true) ∧
    (∀ f, n.withoutNamespaces = .error f →
      ∃ e ∈ n.heads, e.name.space ≠ none ∧ isPlainName (Text.chars e.name.part) = false ∧
        f = .invalidTag e.name.part) ∧
    ∀ n', n.withoutNamespaces = .ok n' → Stripped n n' ∧ n'.withoutNamespaces = .ok n' := by
  refine ⟨?_, fun _ => exists_invalidTag hcut, fun n' h => ?_⟩
  · rw [← leavesNames_iff hcut]
    rcases n.withoutNamespaces_cases with ⟨n', h, hleaves⟩ | ⟨part, h, hnot⟩
    · exact iff_of_true ⟨n', h⟩ hleaves
    · refine iff_of_false ?_ hnot
      rintro ⟨n', h'⟩
      rw [h] at h'
      cases h'
  · obtain ⟨n₁, hrenamed, -⟩ := Outcome.bind_eq_ok.1 h
    have hbare := bare_of_renamed hcut hrenamed
    rw [withoutNamespaces_of_renamed hrenamed hbare] at h
    cases h
    exact ⟨stripped_of_renamed hcut hrenamed, withoutNamespaces_tidied hbare⟩

/-- An element in a namespace that is declared for its prefix, with a comment and an element in no
namespace that has an attribute in another one. -/
def mixedTree : Node :=
  .element ⟨⟨some "p", some "u", "a"⟩, [⟨some "p", "u"⟩, ⟨some "q", "v"⟩], [], 1⟩
    [.comment "c", .element ⟨⟨none, none, "b"⟩, [], [⟨⟨some "q", some "v", "x"⟩, "1"⟩], 1⟩ [.text "t"]]

theorem cuttable_mixedTree : Cuttable mixedTree.heads := by
  unfold Cuttable Unbraced Name.Separable
  decide

theorem strips_only_namespaces_mixedTree :
    Cuttable mixedTree.heads ∧
      ∃ n', mixedTree.withoutNamespaces = .ok n' ∧ Stripped mixedTree n' ∧ n'.withoutNamespaces = .ok n' := by
  have hall := strips_only_namespaces cuttable_mixedTree
  obtain ⟨n', h⟩ := hall.1.2 (by decide)
  exact ⟨cuttable_mixedTree, n', h, hall.2.2 n' h⟩

/-- An element with a colon in its local name, as it is read from `<:a xmlns="u"/>`. -/
def colonElement : Node := .element ⟨⟨none, some "u", ":a"⟩, [⟨none, "u"⟩], [], 1⟩ []

/-- No namespace of the element holds a brace, and still there is no stripped tree. -/
theorem colon_element_not_stripped :
    Cuttable colonElement.heads ∧ colonElement.withoutNamespaces = .error (.invalidTag ":a") := by
  refine ⟨?_, rfl⟩
  unfold Cuttable Unbraced Name.Separable
  decide

end SchemaGate.Xml.Node
