import SchemaGate.Loading.Document
import SchemaGate.Proofs.Xml.Unqualified

/-! Names that are read wrong.

    The brace at which a name is cut need not be the one that closes its namespace. A schema is then looked
    up for the front of a namespace (`schemaLocation_eq`), and an element that is cut down keeps the rest of
    it. It is left with its local name alone iff that rest is nothing or an empty pair of braces
    (`Name.bared_iff`), which is so of a tree iff it is of each of its elements
    (`Node.exists_hasLocalNames_iff`). -/

namespace SchemaGate.Xml

/-! ### Names that are cut down to their local parts -/

/-- Nothing is left of the namespace, or an empty one in braces. -/
def Vanishes (u : Text) : Prop := .char '\x7d' ∉ u ∨ ∃ a, .char '\x7d' ∉ a ∧ u = a ++ "\x7d\x7b"

theorem vanishes_iff {u : Text} : Vanishes u ↔ remainder u = [] ∨ remainder u = "\x7b\x7d" := by
  rw [Vanishes, remainder_eq_nil_iff]
  refine or_congr_right ?_
  constructor
  · rintro ⟨a, ha, rfl⟩
    exact remainder_append ha [.char '\x7b']
  · intro h
    have hmem : .char '\x7d' ∈ u := by
      by_contra hnot
      rw [remainder_of_not_mem hnot] at h
      cases h
    obtain ⟨a, b, rfl, ha⟩ := List.eq_append_cons_of_mem hmem
    have hb : b ++ [.char '\x7d'] = [.char '\x7b'] ++ [.char '\x7d'] := (remainder_append ha b).symm.trans h
    rw [List.append_cancel_right hb]
    exact ⟨a, ha, rfl⟩

namespace Name

/-- A character that no name has does not stand in a plain one. -/
theorem not_mem_of_isPlainName {part : Text} (h : isPlainName (Text.chars part) = true) {c : Char}
    (hc : isPlainNameCharacter c = false) : .char c ∉ part := by
  intro hmem
  have hchars : c ∈ Text.chars part := List.mem_filterMap.2 ⟨.char c, hmem, rfl⟩
  cases hpart : Text.chars part with
  | nil =>
    rw [hpart] at hchars
    cases hchars
  | cons first rest =>
    rw [hpart, isPlainName, Bool.and_eq_true, List.all_eq_true] at h
    rw [hpart, List.mem_cons] at hchars
    rcases hchars with rfl | hrest
    · simp [isPlainNameCharacter, h.1] at hc
    · rw [h.2 c hrest] at hc
      cases hc

theorem eq_cons_of_braced? {t rest : Text} (h : braced? t = some rest) : t = .char '\x7b' :: rest := by
  unfold braced? at h
  split at h
  · cases h
    rfl
  · cases h

/-- The texts that are taken for a local name alone: itself, and itself behind an empty pair of braces. -/
theorem exists_ofTag_bare_iff {t part : Text} (h : isPlainName (Text.chars part) = true) :
    (∃ n, ofTag t = .ok n ∧ n.space = none ∧ n.part = part) ↔ t = part ∨ t = "\x7b\x7d" ++ part := by
  constructor
  · rintro ⟨n, hn, hspace, rfl⟩
    rw [ofTag] at hn
    split at hn
    next space part hparts =>
    split at hn
    · cases hn
      cases (hspace : space = none)
      split at hparts
      · next before after hbraced =>
        obtain ⟨rest, hrest, hcut⟩ := Option.bind_eq_some_iff.1 hbraced
        obtain ⟨hbefore, rfl⟩ := Prod.mk.inj hparts
        -- an empty namespace is none
        have hempty : before = [] := by
          by_contra hne
          rw [if_neg (by simpa using hne)] at hbefore
          cases hbefore
        right
        rw [eq_cons_of_braced? hrest, cut?_eq_some hcut, hempty]
        rfl
      · left
        exact (Prod.mk.inj hparts).2
    · cases hn
  · rintro (rfl | rfl)
    · refine ⟨⟨none, none, t⟩, ?_, rfl, rfl⟩
      simp only [ofTag, braced?_of_unbraced (not_mem_of_isPlainName h rfl), Option.bind_none, h, if_true]
    · have hcut : cut? [.char '\x7d'] (.char '\x7d' :: part) = some ([], part) := by
        simp [cut?, dropPrefix?]
      have htag : braced? ("\x7b\x7d" ++ part) = some (.char '\x7d' :: part) := rfl
      refine ⟨⟨none, none, part⟩, ?_, rfl, rfl⟩
      simp [ofTag, htag, hcut, h]

/-- An element keeps nothing of a namespace that vanishes, and of no other. -/
theorem bared_iff {n : Name} {u : Text} (hspace : n.space = some u)
    (hplain : isPlainName (Text.chars n.part) = true) : n.Bared ↔ Vanishes u := by
  rw [Bared, withoutSpace_of_space hspace, exists_ofTag_bare_iff hplain, vanishes_iff]
  exact or_congr List.append_left_eq_self (List.append_left_inj _)

theorem bared_of_none {n : Name} (hspace : n.space = none) : n.Bared :=
  ⟨n, by rw [withoutSpace, hspace], hspace, rfl⟩

end Name

namespace Node

/-- Every element has its local name still, and no namespace. -/
def HasLocalNames (n n' : Node) : Prop :=
  n'.heads.map (fun e => (e.name.space, e.name.part)) = n.heads.map fun e => (none, e.name.part)

/-- A tree of plain names is left with them alone iff every namespace vanishes. -/
theorem exists_hasLocalNames_iff {n : Node}
    (hplain : ∀ e ∈ n.heads, e.name.space ≠ none → isPlainName (Text.chars e.name.part) = true) :
    (∃ n', n.withoutNamespaces = .ok n' ∧ HasLocalNames n n') ↔
      ∀ e ∈ n.heads, ∀ u ∈ e.name.space, Vanishes u := by
  have hbared : (∀ e ∈ n.heads, e.name.Bared) ↔ ∀ e ∈ n.heads, ∀ u ∈ e.name.space, Vanishes u := by
    refine forall₂_congr fun e he => ?_
    cases hspace : e.name.space with
    | none => exact iff_of_true (Name.bared_of_none hspace) nofun
    | some u => simp [Name.bared_iff hspace (hplain e he (by simp [hspace]))]
  rw [← hbared]
  constructor
  · rintro ⟨n', h, hnames⟩
    exact (heads_withoutNamespaces_iff h).1 hnames
  · intro hall
    rcases n.withoutNamespaces_cases with ⟨n', h, -⟩ | ⟨part, -, hnot⟩
    · exact ⟨n', h, (heads_withoutNamespaces_iff h).2 hall⟩
    · refine absurd (fun e he => ?_) hnot
      obtain ⟨name, hname, -⟩ := hall e he
      exact ⟨name, hname⟩

end Node

/-! ### Schemas -/

/-- The locations that an element hints at. -/
def hintsOf (h : Head) : LocationTable :=
  let hint := fun (name : String) => h.attribute? (some (instanceNamespace : Text)) name
  (schemaLocations (hint "schemaLocation") (hint "noNamespaceSchemaLocation")).1

/-- A schema is looked up under the namespace that is read from the name of the outermost element. -/
theorem schemaLocation_eq {d : Document} {h : Head} (hroot : d.root.head? = some h) :
    (Loading.schemaLocation d).1 = locationOf? (hintsOf h) (namespaceOf h.name.tag) := by
  rw [Loading.schemaLocation, hroot]
  rfl

/-! ### Where names are read right -/

/-- What is read of a name that was put together from a namespace and a local part. -/
structure CutAtFirstBrace (u part : Text) : Prop where
  namespace_eq : namespaceOf (qualified (some u) part) = some (front u)
  local_eq : localName (qualified (some u) part) = .ok (remainder u ++ part)
  namespace_right_iff : namespaceOf (qualified (some u) part) = some u ↔ .char '\x7d' ∉ u
  local_right_iff : localName (qualified (some u) part) = .ok part ↔ .char '\x7d' ∉ u

theorem cutAtFirstBrace (u part : Text) : CutAtFirstBrace u part where
  namespace_eq := namespaceOf_qualified u part
  local_eq := localName_qualified u part
  namespace_right_iff := by rw [namespaceOf_qualified, Option.some_inj, front_eq_self_iff]
  local_right_iff := by
    rw [localName_qualified, Except.ok.injEq, List.append_left_eq_self, remainder_eq_nil_iff]

/-- A namespace and a local name in one text are told apart iff the namespace holds no closing brace. Else
it is read up to the first one, and the schema of a document is looked up for that; and of a tree the local
names are left iff what each of its namespaces gives to the local name is nothing or an empty pair of
braces. -/
theorem names_cut_at_first_brace (u part : Text) :
    CutAtFirstBrace u part ∧
      (∀ (d : Document) (h : Head), d.root.head? = some h → h.name.space = some u →
        (Loading.schemaLocation d).1 = locationOf? (hintsOf h) (some (front u))) ∧
      ∀ n : Node, (∀ e ∈ n.heads, e.name.space ≠ none → isPlainName (Text.chars e.name.part) = true) →
        ((∃ n', n.withoutNamespaces = .ok n' ∧ n.HasLocalNames n') ↔
          ∀ e ∈ n.heads, ∀ u ∈ e.name.space, Vanishes u) := by
  refine ⟨cutAtFirstBrace u part, fun d h hroot hspace => ?_, fun n => Node.exists_hasLocalNames_iff⟩
  rw [schemaLocation_eq hroot, Name.tag, hspace, namespaceOf_qualified]

/-- An attribute that hints at one schema for a namespace. -/
def hintFor (space location : Text) : Attribute :=
  ⟨⟨some "i", some (instanceNamespace : Text), "schemaLocation"⟩, space ++ " " ++ location⟩

/-- The start of an element in a namespace without braces that hints at a schema for it. -/
def hintingHead : Head := ⟨⟨none, some "u", "n"⟩, [⟨none, "u"⟩], [hintFor "u" "x.xsd"], 1⟩

/-- In that element stands one in a namespace of which an empty pair of braces is left. -/
def vanishingTree : Node :=
  .element hintingHead [.element ⟨⟨none, some "a\x7d\x7b", "b"⟩, [⟨none, "a\x7d\x7b"⟩], [], 1⟩ []]

theorem vanishes_vanishingTree : ∀ e ∈ vanishingTree.heads, ∀ u ∈ e.name.space, Vanishes u := by
  have hunbraced : Vanishes "u" := .inl (by decide)
  have hempty : Vanishes "a\x7d\x7b" := .inr ⟨"a", by decide, rfl⟩
  simp [vanishingTree, hintingHead, Node.heads, Node.headsOf, hunbraced, hempty]

theorem names_cut_at_first_brace_vanishing :
    namespaceOf (qualified (some "u") "n") = some ("u" : Text) ∧
      (Loading.schemaLocation ⟨.plain, vanishingTree⟩).1 = some ("x.xsd" : Text) ∧
      (∀ e ∈ vanishingTree.heads, e.name.space ≠ none → isPlainName (Text.chars e.name.part) = true) ∧
      ∃ n', vanishingTree.withoutNamespaces = .ok n' ∧ vanishingTree.HasLocalNames n' := by
  obtain ⟨hcut, hschema, htree⟩ := names_cut_at_first_brace "u" "n"
  have hlocation : locationOf? (hintsOf hintingHead) (some (front "u")) = some ("x.xsd" : Text) := by decide
  have hplain : ∀ e ∈ vanishingTree.heads, e.name.space ≠ none →
      isPlainName (Text.chars e.name.part) = true := by decide
  exact ⟨hcut.namespace_right_iff.2 (by decide),
    (hschema ⟨.plain, vanishingTree⟩ hintingHead rfl rfl).trans hlocation, hplain,
    (htree vanishingTree hplain).2 vanishes_vanishingTree⟩

/-- The start of an element in a namespace with a closing brace, as it is read from
`<n xmlns="a}b" xmlns:i=".." i:schemaLocation="a}b x.xsd">`. -/
def bracedHead : Head :=
  ⟨⟨none, some "a\x7db", "n"⟩, [⟨none, "a\x7db"⟩, ⟨some "i", (instanceNamespace : Text)⟩],
    [hintFor "a\x7db" "x.xsd"], 1⟩

/-- Neither its namespace nor its local name is read right: the schema that it hints at is not found, and it
has no stripped tree. -/
theorem braced_namespace_misread :
    namespaceOf bracedHead.name.tag = some ("a" : Text) ∧ localName bracedHead.name.tag = .ok "b\x7dn" ∧
      locationOf? (hintsOf bracedHead) bracedHead.name.space = some ("x.xsd" : Text) ∧
      (Loading.schemaLocation ⟨.plain, .element bracedHead []⟩).1 = none ∧
      (Node.element bracedHead []).withoutNamespaces = .error (.invalidTag "b\x7dn") :=
  ⟨by decide, rfl, by decide, by decide, rfl⟩

end SchemaGate.Xml
