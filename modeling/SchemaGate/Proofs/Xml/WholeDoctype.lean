import Mathlib.Data.List.Basic
import SchemaGate.Proofs.Association
import SchemaGate.Xml.BuiltIn

/-! Validity by one subset and by both.

    A document type declares in two subsets, and the internal one counts first (`Doctype.whole`). Of an
    engine is asked that it judges by what is declared (`Engine.JudgesByDeclarations`): subsets that say
    the same of what is in a document judge it alike, and what a subset does not declare it does not
    allow. So the external subset alone judges as both do together, where the internal one says nothing of
    the names in the document (`Doctype.whole_allows_iff`).

    The engine that is brought along judges in this way (`judgesByDeclarations_builtIn`): what it finds
    depends only on what is said of these names (`flaws_congr`), flaws that were found stay found
    (`flaws_isPrefix_inspectElement`), and what is not declared is one (`invalid_of_undeclared`). -/

namespace SchemaGate.Xml

/-! ### Both subsets in one -/

namespace Subset

/-- The declarations of two subsets; what the first one declares counts. -/
def followedBy (first second : Subset) : Subset where
  elements := Association.complete first.elements second.elements
  attributes := first.attributes ++
    second.attributes.filter fun d => (first.attribute? d.element d.name).isNone
  notations := first.notations ++ second.notations
  entities := Association.complete first.entities second.entities
  parameters := Association.complete first.parameters second.parameters

variable {first second : Subset}

theorem get?_elements_followedBy (name : Text) :
    Association.get? name (first.followedBy second).elements =
      (Association.get? name first.elements).or (Association.get? name second.elements) :=
  Association.get?_complete ..

/-- The first declaration of an attribute is among those of its element. -/
theorem attribute?_eq (s : Subset) (element name : Text) :
    s.attribute? element name = (s.attributesOf element).find? fun d => d.name = name := by
  rw [attribute?, attributesOf, List.find?_filter]
  congr 1
  funext d
  simp

theorem attributesOf_followedBy {element : Text} (h : first.attributesOf element = []) :
    (first.followedBy second).attributesOf element = second.attributesOf element := by
  have hnone : ∀ name, first.attribute? element name = none := fun name => by
    rw [attribute?_eq, h, List.find?_nil]
  rw [attributesOf, followedBy, List.filter_append, ← attributesOf, h, List.nil_append, List.filter_filter,
    attributesOf]
  refine List.filter_congr fun d _ => ?_
  by_cases hd : d.element = element
  · simp [hd, hnone]
  · simp [hd]

end Subset

/-- The declarations of both subsets. -/
def Doctype.whole (t : Doctype) : Subset :=
  match t.external with
  | some external => t.internal.followedBy external
  | none => t.internal

namespace Validity

/-! ### What is found depends on what is declared -/

/-- Two subsets say the same of an element. -/
structure AlikeAt (a b : Subset) (n : Name) : Prop where
  content : ∀ name ∈ namesOf n, Association.get? name a.elements = Association.get? name b.elements
  attributes : ∀ name ∈ namesOf n, a.attributesOf name = b.attributesOf name

/-- Two subsets say the same of the elements of a tree, and of the values that attributes may have. -/
structure Alike (a b : Subset) (root : Node) : Prop where
  elements : ∀ e ∈ root.elements, AlikeAt a b e.1.name
  notations : ∀ name, name ∈ a.notations ↔ name ∈ b.notations
  entities : ∀ name, Association.get? name a.entities = Association.get? name b.entities

/-- An element without declared content, or with an attribute that is not declared for it. -/
def Undeclared (s : Subset) (h : Head) : Prop :=
  contentOf? s h.name = none ∨ ∃ x ∈ h.attributes, attributeOf? s h.name x.name.asWritten = none

theorem findSome?_congr {α β : Type} {f g : α → Option β} {items : List α} (h : ∀ a ∈ items, f a = g a) :
    items.findSome? f = items.findSome? g := by
  induction items with
  | nil => rfl
  | cons a items ih =>
    rw [List.forall_mem_cons] at h
    rw [List.findSome?_cons, List.findSome?_cons, h.1, ih h.2]

section

variable {a b : Subset} {n : Name} {h : Head}

theorem contentOf?_congr (halike : AlikeAt a b n) : contentOf? a n = contentOf? b n :=
  findSome?_congr fun name hname => by rw [halike.content name hname]

theorem attributeOf?_congr (halike : AlikeAt a b n) (written : Text) :
    attributeOf? a n written = attributeOf? b n written :=
  findSome?_congr fun name hname => by
    rw [Subset.attribute?_eq, Subset.attribute?_eq, halike.attributes name hname]

/-- The content of an element is found under one of its names. -/
theorem mem_namesOf_of_contentOf? {name : Text} {content : Content}
    (hcontent : contentOf? a n = some (name, content)) : name ∈ namesOf n := by
  obtain ⟨name', hname, hfound⟩ := List.exists_of_findSome?_eq_some hcontent
  obtain ⟨_, -, heq⟩ := Option.map_eq_some_iff.1 hfound
  cases heq
  exact hname

theorem inspectDeclared_congr (halike : AlikeAt a b h.name) (isStandalone : Bool) (children : List Node)
    (i : Inspection) :
    inspectDeclared a isStandalone h children i = inspectDeclared b isStandalone h children i := by
  simp only [inspectDeclared, contentOf?_congr halike]
  cases hcontent : contentOf? b h.name with
  | none => rfl
  | some found =>
    obtain ⟨name, content⟩ := found
    have hdeclared : declaredFlaws a name h = declaredFlaws b name h := by
      rw [declaredFlaws, declaredFlaws, halike.attributes name (mem_namesOf_of_contentOf? hcontent)]
    simp only [hdeclared]

variable {root : Node} (halike : Alike a b root)

include halike

theorem allValueFlaws_congr (d : AttributeDeclaration) (value : Text) (isRepeated : Bool) :
    allValueFlaws a d value isRepeated = allValueFlaws b d value isRepeated := by
  have hnotations : ∀ name, a.notations.contains name = b.notations.contains name := fun name => by
    rw [Bool.eq_iff_iff, List.contains_iff_mem, List.contains_iff_mem, halike.notations]
  have hvalue : valueFlaws a d value = valueFlaws b d value := by
    simp only [valueFlaws, hnotations]
  have hentity : entityFlaws a d value = entityFlaws b d value := by
    simp only [entityFlaws, halike.entities]
  rw [allValueFlaws, allValueFlaws, hvalue, hentity]

theorem inspectElement_congr (isStandalone : Bool) (i : Inspection) {e : Head × List Node}
    (he : e ∈ root.elements) : inspectElement a isStandalone i e = inspectElement b isStandalone i e := by
  have hat := halike.elements e he
  have hattribute : inspectAttribute a e.1 = inspectAttribute b e.1 := by
    funext i x
    simp only [inspectAttribute, attributeOf?_congr hat, allValueFlaws_congr halike]
  have hdeclaration : declarationFlaws a e.1 = declarationFlaws b e.1 := by
    funext d
    simp only [declarationFlaws, attributeOf?_congr hat, allValueFlaws_congr halike]
  simp only [inspectElement, inspectDeclared_congr hat, hattribute, hdeclaration]

/-- Subsets that say the same of the names in a document find the same flaws in it. -/
theorem flaws_congr (isStandalone : Bool) : flaws a isStandalone root = flaws b isStandalone root := by
  have hinspected : root.elements.foldl (inspectElement a isStandalone) ⟨[], [], [], []⟩ =
      root.elements.foldl (inspectElement b isStandalone) ⟨[], [], [], []⟩ :=
    List.foldl_ext _ _ _ fun i _ he => inspectElement_congr halike isStandalone i he
  rw [flaws, flaws, hinspected]

end

/-! ### What is not declared -/

section

variable (s : Subset) (isStandalone : Bool)

theorem flaws_isPrefix_foldl {α : Type} {step : Inspection → α → Inspection}
    (hstep : ∀ i a, i.flaws <+: (step i a).flaws) (i : Inspection) (items : List α) :
    i.flaws <+: (items.foldl step i).flaws := by
  induction items generalizing i with
  | nil => exact List.prefix_rfl
  | cons a items ih => exact (hstep i a).trans (ih _)

/-- What one of many steps finds, wherever it comes, is found by all of them. -/
theorem mem_flaws_foldl {α : Type} {step : Inspection → α → Inspection}
    (hstep : ∀ i a, i.flaws <+: (step i a).flaws) {a : α} {items : List α} (ha : a ∈ items) {f : Flaw}
    (hf : ∀ i, f ∈ (step i a).flaws) (i : Inspection) : f ∈ (items.foldl step i).flaws := by
  obtain ⟨front, back, rfl⟩ := List.append_of_mem ha
  rw [List.foldl_append, List.foldl_cons]
  exact (flaws_isPrefix_foldl hstep _ back).subset (hf _)

theorem flaws_isPrefix_inspectDeclared (h : Head) (children : List Node) (i : Inspection) :
    i.flaws <+: (inspectDeclared s isStandalone h children i).flaws := by
  rw [inspectDeclared]
  split
  · exact List.prefix_append ..
  · simp only [List.append_assoc]
    exact List.prefix_append ..

theorem flaws_isPrefix_inspectAttribute (h : Head) (i : Inspection) (x : Attribute) :
    i.flaws <+: (inspectAttribute s h i x).flaws := by
  rw [inspectAttribute]
  split <;> exact List.prefix_append ..

/-- An element adds to the flaws that were found before. -/
theorem flaws_isPrefix_inspectElement (i : Inspection) (e : Head × List Node) :
    i.flaws <+: (inspectElement s isStandalone i e).flaws :=
  ((flaws_isPrefix_inspectDeclared s isStandalone e.1 e.2 i).trans
    (flaws_isPrefix_foldl (flaws_isPrefix_inspectAttribute s e.1) _ e.1.attributes)).trans
    (List.prefix_append ..)

variable {s}

theorem mem_flaws_of_undeclared {h : Head} (hundeclared : Undeclared s h) (children : List Node)
    (i : Inspection) : ⟨some h.line, true⟩ ∈ (inspectElement s isStandalone i (h, children)).flaws := by
  have hattributes := flaws_isPrefix_foldl (flaws_isPrefix_inspectAttribute s h)
    (inspectDeclared s isStandalone h children i) h.attributes
  refine List.mem_append_left _ ?_
  rcases hundeclared with hcontent | ⟨x, hx, hattribute⟩
  · refine hattributes.subset ?_
    simp [inspectDeclared, hcontent]
  · refine mem_flaws_foldl (flaws_isPrefix_inspectAttribute s h) hx (fun i => ?_) _
    simp [inspectAttribute, hattribute]

/-- A document is not valid by a subset that does not declare something in it. -/
theorem invalid_of_undeclared {root : Node} {e : Head × List Node} (he : e ∈ root.elements)
    (hundeclared : Undeclared s e.1) : validityFlaws s isStandalone root ≠ [] := by
  have hmem : ⟨some e.1.line, true⟩ ∈ flaws s isStandalone root :=
    List.mem_append_left _ (mem_flaws_foldl (flaws_isPrefix_inspectElement s isStandalone) he
      (mem_flaws_of_undeclared isStandalone hundeclared e.2) _)
  have hgrave : (flaws s isStandalone root).any Flaw.isGrave = true :=
    List.any_eq_true.2 ⟨_, hmem, rfl⟩
  rw [validityFlaws, if_pos hgrave]
  exact List.ne_nil_of_mem hmem

end

end Validity

/-! ### Engines -/

/-- An engine judges a document by what a subset declares, and writes down why it is not valid. -/
structure Engine.JudgesByDeclarations (e : Engine) : Prop where
  alike : ∀ {a b : Subset} {d : Document}, Validity.Alike a b d.root →
    ((e.judge a d).isValid = true ↔ (e.judge b d).isValid = true)
  undeclared : ∀ {s : Subset} {d : Document}, (∃ x ∈ d.root.elements, Validity.Undeclared s x.1) →
    (e.judge s d).isValid = false
  logged : ∀ {s : Subset} {d : Document}, (e.judge s d).isValid = false → (e.judge s d).log ≠ []

theorem Engine.judgesByDeclarations_builtIn : builtIn.JudgesByDeclarations where
  alike {a b d} halike := by
    change (validityFlaws a _ _).isEmpty = true ↔ (validityFlaws b _ _).isEmpty = true
    rw [validityFlaws, validityFlaws, Validity.flaws_congr halike]
  undeclared {s d} hundeclared := by
    obtain ⟨x, hx, hundeclared⟩ := hundeclared
    have hinvalid := Validity.invalid_of_undeclared d.prolog.isStandalone hx hundeclared
    exact List.isEmpty_eq_false_iff.2 hinvalid
  logged {s d} hinvalid := by
    change (validityFlaws s _ _).map _ ≠ []
    simpa [List.map_eq_nil_iff] using List.isEmpty_eq_false_iff.1 hinvalid

/-- The document is valid by a subset. -/
def Subset.Allows (e : Engine) (s : Subset) (d : Document) : Prop := (e.judge s d).isValid = true

/-- Nothing speaks against a document exactly if it is valid. -/
theorem Engine.JudgesByDeclarations.flaws_eq_nil_iff {e : Engine} (he : e.JudgesByDeclarations)
    {s : Subset} {d : Document} : (e.judge s d).flaws = [] ↔ s.Allows e d := by
  rw [Judgement.flaws, Subset.Allows]
  cases hvalid : (e.judge s d).isValid with
  | true => simp
  | false => simpa using he.logged hvalid

namespace Validity

/-! ### The external subset alone -/

/-- The internal subset says nothing of the elements of a tree, and of the values that attributes may have
nothing that the external one does not say. -/
structure Silent (internal external : Subset) (root : Node) : Prop where
  content : ∀ e ∈ root.elements, ∀ name ∈ namesOf e.1.name, Association.get? name internal.elements = none
  attributes : ∀ e ∈ root.elements, ∀ name ∈ namesOf e.1.name, internal.attributesOf name = []
  notations : internal.notations ⊆ external.notations
  entities : ∀ name entity, Association.get? name internal.entities = some entity →
    Association.get? name external.entities = some entity

/-- Where the internal subset is silent, both subsets together say what the external one says. -/
theorem followedBy_alike {internal external : Subset} {root : Node} (h : Silent internal external root) :
    Alike (internal.followedBy external) external root where
  elements e he :=
    { content := fun name hname => by
        rw [Subset.get?_elements_followedBy, h.content e he name hname, Option.none_or]
      attributes := fun name hname => Subset.attributesOf_followedBy (h.attributes e he name hname) }
  notations name := by
    rw [Subset.followedBy, List.mem_append]
    exact or_iff_right_of_imp fun hmem => h.notations hmem
  entities name := by
    rw [Subset.followedBy, Association.get?_complete]
    cases hentity : Association.get? name internal.entities with
    | none => rfl
    | some entity => rw [h.entities name entity hentity, Option.some_or]

end Validity

/-- Both subsets allow what the external one allows, and nothing else, where the internal one is silent. -/
theorem Doctype.whole_allows_iff {e : Engine} (he : e.JudgesByDeclarations) {t : Doctype} {external : Subset}
    (hexternal : t.external = some external) {d : Document}
    (hsilent : Validity.Silent t.internal external d.root) : t.whole.Allows e d ↔ external.Allows e d := by
  rw [whole, hexternal]
  exact he.alike (Validity.followedBy_alike hsilent)

end SchemaGate.Xml
