import Mathlib.Data.List.Nodup
import Mathlib.Data.List.Perm.Subperm
import SchemaGate.Proofs.Text.CodePoints
import SchemaGate.Proofs.Xml.Stripped

/-! Prefixes in trees without namespaces.

    The rest of a namespace that an element keeps may put it into another one. It then goes by a prefix that
    stands for that one (`Head.boundIn_prefixed`), and if it has to declare it, this hides no other prefix,
    since a new one is not declared yet (`Scope.declares_freshPrefix`). A declaration that is dropped stood
    for no name. So every prefix in the tree that is left stands for its namespace, if those of the attributes
    did before (`Node.bound_of_withoutNamespaces`). -/

namespace SchemaGate.Xml

/-! ### New prefixes -/

namespace Scope

theorem numbered_injective : Function.Injective numbered := by
  intro m n h
  have hdigits : Text.ofNat m = Text.ofNat n := List.append_cancel_left h
  rw [Text.ofNat_eq, Text.ofNat_eq] at hdigits
  have hsame : Nat.toDigits 10 m = Nat.toDigits 10 n :=
    List.map_injective_iff.2 (fun _ _ => CodePoint.char.inj) hdigits
  have hvalue (k : Nat) : Nat.ofDigitChars 10 (Nat.toDigits 10 k) 0 = k :=
    Nat.ofDigitChars_toDigits (by decide) (by decide)
  rw [← hvalue m, hsame, hvalue]

theorem declares_iff {scope : Scope} {p : Text} :
    scope.declares p = true ↔ some p ∈ scope.map Declaration.declares := by
  simp [declares]

/-- Of more numbers than there are declarations, one gives a prefix that is not declared. -/
theorem exists_undeclared (scope : Scope) (next : Nat) :
    ∃ n ∈ List.range' next (scope.length + 1), scope.declares (numbered n) = false := by
  by_contra hnone
  have hsubset : (List.range' next (scope.length + 1)).map (some ∘ numbered) ⊆
      scope.map Declaration.declares := by
    intro p hp
    obtain ⟨n, hn, rfl⟩ := List.mem_map.1 hp
    refine declares_iff.1 ?_
    by_contra hnot
    exact hnone ⟨n, hn, by simpa using hnot⟩
  have hnodup : ((List.range' next (scope.length + 1)).map (some ∘ numbered)).Nodup :=
    List.Nodup.map (fun _ _ h => numbered_injective (Option.some.inj h)) List.nodup_range'
  have hlength := (List.subperm_of_subset hnodup hsubset).length_le
  rw [List.length_map, List.length_map, List.length_range'] at hlength
  omega

theorem numbered_ne_xml (n : Nat) : numbered n ≠ "xml" := by
  intro h
  cases congrArg List.head? h

/-- A new prefix is not declared, and it is not the one that never is. -/
theorem declares_freshPrefix (scope : Scope) (next : Nat) (u : Text) :
    scope.declares (scope.freshPrefix next u).1 = false ∧ (scope.freshPrefix next u).1 ≠ "xml" := by
  rw [freshPrefix]
  split
  · next p hp =>
    obtain ⟨hcustom, hfree⟩ := Option.filter_eq_some_iff.1 hp
    refine ⟨by simpa using hfree, ?_⟩
    rintro rfl
    obtain ⟨entry, hentry, hxml⟩ := Option.map_eq_some_iff.1 hcustom
    have hnone : ∀ entry ∈ customary, entry.2 ≠ ("xml" : Text) := by decide
    exact hnone entry (List.mem_of_find?_eq_some hentry) hxml
  · obtain ⟨n, hn, hfree⟩ := scope.exists_undeclared next
    cases hfound : (List.range' next (scope.length + 1)).find? fun n => !scope.declares (numbered n) with
    | none =>
      have hall := List.find?_eq_none.1 hfound n hn
      simp [hfree] at hall
    | some m => exact ⟨by simpa using List.find?_some hfound, numbered_ne_xml m⟩

/-! ### Declarations in front of a scope -/

/-- The declarations of an element come before those around it. -/
theorem space?_append (ds scope : Scope) (p : Option Text) :
    (ds ++ scope : Scope).space? p = if ∃ d ∈ ds, d.declares = p then ds.space? p else scope.space? p := by
  unfold space?
  rw [List.find?_append]
  split
  · simp
  · cases hfound : ds.find? fun d => d.declares = p with
    | none =>
      have hnot : ¬ ∃ d ∈ ds, d.declares = p := by simpa using hfound
      rw [if_neg hnot, Option.none_or]
    | some d =>
      have hdeclared : ∃ d ∈ ds, d.declares = p :=
        ⟨d, List.mem_of_find?_eq_some hfound, by simpa using List.find?_some hfound⟩
      rw [if_pos hdeclared, Option.some_or]

theorem space?_eq_none {scope : Scope} {p : Text} (hfree : scope.declares p = false) (hxml : p ≠ "xml") :
    scope.space? (some p) = none := by
  have hnone : scope.find? (fun d => d.declares = some p) = none := by
    rw [List.find?_eq_none]
    simpa [declares] using hfree
  rw [space?, if_neg (by simpa using hxml), hnone]

/-- What a prefix stands for in a scope, it stands for in a wider one. -/
def Extends (wider scope : Scope) : Prop := ∀ p u, scope.space? p = some u → wider.space? p = some u

theorem Extends.append {wider scope : Scope} (h : wider.Extends scope) (ds : Scope) :
    Extends (ds ++ wider) (ds ++ scope) := by
  intro p u hp
  rw [space?_append] at hp ⊢
  split
  · next hdeclared => rwa [if_pos hdeclared] at hp
  · next hnot =>
    rw [if_neg hnot] at hp
    exact h p u hp

/-- A new prefix hides none. -/
theorem extends_new {ds scope : Scope} {p u : Text} (hfree : declares (ds ++ scope) p = false)
    (hxml : p ≠ "xml") : Extends (ds ++ [⟨some p, u⟩] ++ scope) (ds ++ scope) := by
  intro q v hq
  have hne : q ≠ some p := by
    rintro rfl
    rw [space?_eq_none hfree hxml] at hq
    cases hq
  rw [space?_append] at hq
  rw [List.append_assoc, space?_append]
  split
  · next hdeclared => rwa [if_pos hdeclared] at hq
  · next hnot =>
    rw [if_neg hnot] at hq
    rwa [space?_append, if_neg (by simpa using hne.symm)]

theorem space?_new {ds scope : Scope} {p u : Text} (hfree : declares (ds ++ scope) p = false)
    (hxml : p ≠ "xml") (hne : u ≠ []) : space? (ds ++ [⟨some p, u⟩] ++ scope) (some p) = some u := by
  have hnot : ¬ ∃ d ∈ ds, d.declares = some p := by
    simp only [declares, List.any_append, Bool.or_eq_false_iff] at hfree
    simpa using hfree.1
  rw [List.append_assoc, space?_append, if_neg hnot, space?_append, if_pos (by simp)]
  simp [space?, hxml, hne]

end Scope

/-! ### Names of an element -/

namespace Name

/-- An empty namespace is none. -/
theorem space_ofTag_ne {t : Text} {n : Name} (h : ofTag t = .ok n) : n.space ≠ some [] := by
  rw [ofTag] at h
  split at h
  next space part hparts =>
  split at h
  · cases h
    rintro rfl
    split at hparts
    · next before _ _ =>
      obtain ⟨hspace, -⟩ := Prod.mk.inj hparts
      split at hspace
      · cases hspace
      · next hne =>
        cases hspace
        exact hne rfl
    · cases hparts
  · cases h

theorem space_withoutSpace_ne {n n' : Name} (h : n.withoutSpace = .ok n') : n'.space ≠ some [] := by
  cases hspace : n.space with
  | none =>
    rw [withoutSpace, hspace] at h
    cases h
    simp [hspace]
  | some u =>
    rw [withoutSpace_of_space hspace] at h
    exact space_ofTag_ne h

end Name

/-- The prefix of a name stands for its namespace. -/
def Name.BoundIn (scope : Scope) (n : Name) : Prop := ∀ u ∈ n.space, scope.space? n.written = some u

namespace Head

/-- The names of the attributes. -/
def attributeNames (h : Head) : List Name := h.attributes.map (·.name)

/-- The name of the element and those of its attributes. -/
def names (h : Head) : List Name := h.name :: h.attributeNames

variable {h : Head} (hproper : h.name.space ≠ some []) (scope : Scope) (next : Nat)

include hproper

/-- An element goes by a prefix that is declared already, or by a new one that it declares. -/
theorem prefixed_cases :
    (∃ name : Name, (h.prefixed scope next).1 = { h with name := name } ∧
      name.BoundIn (h.declarations ++ scope)) ∨
    ∃ (name : Name) (p u : Text),
      (h.prefixed scope next).1 = { h with name := name, declarations := h.declarations ++ [⟨some p, u⟩] } ∧
      name.written = some p ∧ name.space = some u ∧ u ≠ [] ∧ p ≠ "xml" ∧
      Scope.declares (h.declarations ++ scope) p = false := by
  rw [prefixed]
  split
  · next hspace => exact .inl ⟨h.name, rfl, by simp [Name.BoundIn, hspace]⟩
  · next u hspace =>
    dsimp only
    split
    · next hxml =>
      refine .inl ⟨_, rfl, ?_⟩
      rintro v hv
      rw [hspace] at hv
      cases hv
      rw [hxml]
      rfl
    · split
      · next d hd =>
        refine .inl ⟨_, rfl, ?_⟩
        rintro v hv
        rw [hspace] at hv
        cases hv
        have hstands := List.find?_some hd
        rw [Bool.and_eq_true, decide_eq_true_eq, decide_eq_true_eq] at hstands
        exact hstands.2
      · obtain ⟨hfree, hxml⟩ := Scope.declares_freshPrefix (h.declarations ++ scope) next u
        refine .inr ⟨_, _, u, rfl, rfl, hspace, ?_, hxml, hfree⟩
        rintro rfl
        exact hproper hspace

theorem boundIn_prefixed :
    (h.prefixed scope next).1.name.BoundIn ((h.prefixed scope next).1.declarations ++ scope) := by
  rcases prefixed_cases hproper scope next with ⟨name, heq, hbound⟩ |
    ⟨name, p, u, heq, hwritten, hspace, hne, hxml, hfree⟩
  · rw [heq]
    exact hbound
  · rw [heq]
    intro v hv
    obtain rfl : u = v := Option.some.inj (hspace.symm.trans hv)
    exact (congrArg _ hwritten).trans (Scope.space?_new hfree hxml hne)

theorem extends_prefixed :
    Scope.Extends ((h.prefixed scope next).1.declarations ++ scope) (h.declarations ++ scope) := by
  rcases prefixed_cases hproper scope next with ⟨name, heq, -⟩ | ⟨name, p, u, heq, -, -, -, hxml, hfree⟩
  · rw [heq]
    exact fun _ _ hstands => hstands
  · rw [heq]
    exact Scope.extends_new hfree hxml

theorem attributes_prefixed : (h.prefixed scope next).1.attributes = h.attributes := by
  rcases prefixed_cases hproper scope next with ⟨name, heq, -⟩ | ⟨name, p, u, heq, -⟩ <;> rw [heq]

end Head

/-! ### Trees -/

namespace Node

/-- In a tree the prefixes of certain names stand for their namespaces. -/
inductive Bound (names : Head → List Name) : Scope → Node → Prop
  | element {scope : Scope} {head : Head} {children : List Node}
      (hhead : ∀ m ∈ names head, m.BoundIn (head.declarations ++ scope))
      (hchildren : ∀ n ∈ children, Bound names (head.declarations ++ scope) n) :
      Bound names scope (.element head children)
  | text {scope : Scope} (content : Text) : Bound names scope (.text content)
  | comment {scope : Scope} (content : Text) : Bound names scope (.comment content)
  | instruction {scope : Scope} (target content : Text) : Bound names scope (.instruction target content)

mutual

theorem bound_renamed {scope : Scope} {n n' : Node} (h : n.renamed = .ok n')
    (hbound : Bound Head.attributeNames scope n) : Bound Head.attributeNames scope n' := by
  match n, hbound with
  | .element head children, .element hhead hchildren =>
    rw [renamed] at h
    obtain ⟨name, -, h⟩ := Outcome.bind_eq_ok.1 h
    obtain ⟨children', hrest, h⟩ := Outcome.bind_eq_ok.1 h
    cases h
    exact .element hhead (bound_allRenamed hrest hchildren)
  | .text _, hbound | .comment _, hbound | .instruction _ _, hbound =>
    cases h
    exact hbound

theorem bound_allRenamed {scope : Scope} {ns ns' : List Node} (h : allRenamed ns = .ok ns')
    (hbound : ∀ n ∈ ns, Bound Head.attributeNames scope n) :
    ∀ n' ∈ ns', Bound Head.attributeNames scope n' := by
  match ns with
  | [] =>
    cases h
    exact nofun
  | n :: rest =>
    rw [allRenamed] at h
    obtain ⟨n', hn, h⟩ := Outcome.bind_eq_ok.1 h
    obtain ⟨rest', hrest, h⟩ := Outcome.bind_eq_ok.1 h
    cases h
    obtain ⟨hfirst, hothers⟩ := List.forall_mem_cons.1 hbound
    exact List.forall_mem_cons.2 ⟨bound_renamed hn hfirst, bound_allRenamed hrest hothers⟩

end

/-- No element is in a namespace of the empty name. -/
def Proper (heads : List Head) : Prop := ∀ e ∈ heads, e.name.space ≠ some []

theorem proper_of_renamed {n n' : Node} (h : n.renamed = .ok n') : Proper n'.heads := by
  intro e he
  have hmem := List.mem_map_of_mem (f := fun e : Head => (.ok e.name : Except Failure Name)) he
  rw [← names_renamed h] at hmem
  obtain ⟨e', -, hname⟩ := List.mem_map.1 hmem
  exact Name.space_withoutSpace_ne hname

mutual

/-- Choosing prefixes leaves those of attributes what they stand for. -/
theorem bound_prefixed {wider scope : Scope} (hwider : wider.Extends scope) (next : Nat) {n : Node}
    (hproper : Proper n.heads) (hbound : Bound Head.attributeNames scope n) :
    Bound Head.names wider (n.prefixed wider next).1 := by
  match n, hbound with
  | .element head children, .element hhead hchildren =>
    obtain ⟨hname, hbelow⟩ := List.forall_mem_cons.1 hproper
    have hinside : Scope.Extends ((head.prefixed wider next).1.declarations ++ wider)
        (head.declarations ++ scope) := fun p u hp =>
      Head.extends_prefixed hname wider next p u (hwider.append head.declarations p u hp)
    rw [prefixed]
    refine .element (List.forall_mem_cons.2 ⟨Head.boundIn_prefixed hname wider next, ?_⟩)
      (bound_allPrefixed hinside _ hbelow hchildren)
    rw [Head.attributeNames, Head.attributes_prefixed hname]
    exact fun m hm u hu => hinside _ _ (hhead m hm u hu)
  | .text content, _ => exact .text content
  | .comment content, _ => exact .comment content
  | .instruction target content, _ => exact .instruction target content

theorem bound_allPrefixed {wider scope : Scope} (hwider : wider.Extends scope) (next : Nat) {ns : List Node}
    (hproper : Proper (headsOf ns)) (hbound : ∀ n ∈ ns, Bound Head.attributeNames scope n) :
    ∀ n ∈ (allPrefixed wider next ns).1, Bound Head.names wider n := by
  match ns with
  | [] => exact nofun
  | n :: rest =>
    obtain ⟨hnode, hrest⟩ := List.forall_mem_append.1 hproper
    obtain ⟨hfirst, hothers⟩ := List.forall_mem_cons.1 hbound
    rw [allPrefixed]
    exact List.forall_mem_cons.2 ⟨bound_prefixed hwider next hnode hfirst,
      bound_allPrefixed hwider _ hrest hothers⟩

end

/-- What a name relies on, the element that it is a name of relies on. -/
theorem reliesOn_of_mem_names {head : Head} {m : Name} (hm : m ∈ head.names) (hspace : m.space ≠ none) :
    head.reliesOn m.written = true := by
  have hrelies : m.reliesOn m.written = true := by
    simpa [Name.reliesOn, Option.isSome_iff_ne_none] using hspace
  rcases List.mem_cons.1 hm with rfl | hattribute
  · simp [Head.reliesOn, hrelies]
  · obtain ⟨a, ha, rfl⟩ := List.mem_map.1 hattribute
    rw [Head.reliesOn, Bool.or_eq_true, List.any_eq_true]
    exact .inr ⟨a, ha, hrelies⟩

theorem find?_tidiedHead {head : Head} {children : List Node} {p : Option Text}
    (hneeded : (head.reliesOn p || anyReliesOn p children) = true) :
    ((tidiedHead head children).declarations.find? fun d => d.declares = p) =
      head.declarations.find? fun d => d.declares = p := by
  rw [tidiedHead, List.find?_filter]
  congr 1
  funext d
  by_cases hd : d.declares = p
  · simp only [hd, hneeded, decide_true, and_self]
  · simp [hd]

/-- A prefix that something relies on keeps its declaration. -/
theorem space?_tidiedHead {inner scope : Scope} {head : Head} {children : List Node} {p : Option Text}
    (hagree : (Node.element head children).reliesOn p = true → inner.space? p = scope.space? p)
    (hneeded : (head.reliesOn p || anyReliesOn p children) = true) :
    Scope.space? ((tidiedHead head children).declarations ++ inner) p =
      Scope.space? (head.declarations ++ scope) p := by
  have hdeclared : (∃ d ∈ (tidiedHead head children).declarations, d.declares = p) ↔
      ∃ d ∈ head.declarations, d.declares = p := by
    simp only [tidiedHead, List.mem_filter]
    constructor
    · rintro ⟨d, ⟨hd, -⟩, rfl⟩
      exact ⟨d, hd, rfl⟩
    · rintro ⟨d, hd, rfl⟩
      exact ⟨d, ⟨hd, hneeded⟩, rfl⟩
  rw [Scope.space?_append, Scope.space?_append]
  by_cases hhere : ∃ d ∈ head.declarations, d.declares = p
  · rw [if_pos (hdeclared.2 hhere), if_pos hhere, Scope.space?, find?_tidiedHead hneeded, Scope.space?]
  · rw [if_neg fun h => hhere (hdeclared.1 h), if_neg hhere]
    refine hagree ?_
    have houtside : head.redeclares p = false := by simpa [Head.redeclares] using hhere
    rw [reliesOn, houtside, hneeded]
    rfl

mutual

/-- A declaration that is dropped is one that no name relies on. -/
theorem bound_tidied {inner scope : Scope} {n : Node}
    (hagree : ∀ p, n.reliesOn p = true → inner.space? p = scope.space? p)
    (hbound : Bound Head.names scope n) : Bound Head.names inner n.tidied := by
  match n, hbound with
  | .element head children, .element hhead hchildren =>
    rw [tidied_element]
    refine .element (fun m hm u hu => ?_) (bound_allTidied (fun p hp => ?_) hchildren)
    · have hneeded : head.reliesOn m.written = true :=
        reliesOn_of_mem_names hm (Option.ne_none_iff_exists'.2 ⟨u, hu⟩)
      rw [space?_tidiedHead (hagree _) (by rw [hneeded, Bool.true_or])]
      exact hhead m hm u hu
    · exact space?_tidiedHead (hagree p) (by rw [hp, Bool.or_true])
  | .text content, _ => exact .text content
  | .comment content, _ => exact .comment content
  | .instruction target content, _ => exact .instruction target content

theorem bound_allTidied {inner scope : Scope} {ns : List Node}
    (hagree : ∀ p, anyReliesOn p ns = true → inner.space? p = scope.space? p)
    (hbound : ∀ n ∈ ns, Bound Head.names scope n) : ∀ n ∈ allTidied ns, Bound Head.names inner n := by
  match ns with
  | [] => exact nofun
  | n :: rest =>
    obtain ⟨hfirst, hothers⟩ := List.forall_mem_cons.1 hbound
    simp only [anyReliesOn, Bool.or_eq_true] at hagree
    exact List.forall_mem_cons.2 ⟨bound_tidied (fun p hp => hagree p (.inl hp)) hfirst,
      bound_allTidied (fun p hp => hagree p (.inr hp)) hothers⟩

end

/-- If the prefixes of attributes stand for their namespaces, so do all prefixes in what is left of a tree. -/
theorem bound_of_withoutNamespaces {n n' : Node} (h : n.withoutNamespaces = .ok n')
    (hbound : Bound Head.attributeNames [] n) : Bound Head.names [] n' := by
  obtain ⟨n₁, hrenamed, h⟩ := Outcome.bind_eq_ok.1 h
  cases h
  have hwider : Scope.Extends [] [] := fun _ _ hstands => hstands
  exact bound_tidied (fun _ _ => rfl)
    (bound_prefixed hwider 0 (proper_of_renamed hrenamed) (bound_renamed hrenamed hbound))

end Node

end SchemaGate.Xml
