import SchemaGate.Proofs.Association
import SchemaGate.Proofs.Text.Occurrence
import SchemaGate.Settings.Basic

/-! Settings read from a value.

    Reading looks at the shape of a value and never at what a setting is. So each reader accepts the
    values of one kind, gives of such a value what can be said without the reader, and refuses all
    others in one way (`Accepts`). The readers of the parts have this property, a part that may be
    absent keeps it, and so do readers of one value one after another. -/

namespace SchemaGate

namespace Value

theorem same_text_iff {v : Value} {t : Text} : v.same (.text t) = true ↔ v = .text t := by
  cases v <;> simp [same]

/-- What a value has under a name; only an object has something. -/
def under? (name : Text) : Value → Option Value
  | .object fields => Association.get? name fields
  | _ => none

/-- The fields of a value; only an object has some. -/
def fields : Value → List (Text × Value)
  | .object fields => fields
  | _ => []

theorem get?_fields (name : Text) (v : Value) : Association.get? name v.fields = v.under? name := by
  cases v <;> rfl

end Value

namespace Settings

/-! ### Shapes -/

/-- The sections, each with the settings that it knows. -/
def sections : List (String × List String) :=
  [("detector", ["encoding"]), ("schema", ["mappings_location", "search_paths"]),
   ("document", ["validation_mode", "namespace_aware", "no_network"])]

/-- The parts of settings by their names. -/
def partNames : List String := ["detector", "schema", "document", "log_level"]

/-- An object that has none but the known fields. -/
def IsSection (known : List String) (v : Value) : Prop :=
  ∃ fields, v = .object fields ∧ ∀ f ∈ fields, ∃ k ∈ known, f.1 = (k : Text)

/-- The values that are settings by their shape: objects whose sections are such, and lists and texts
that speak of no part. -/
def Shaped : Value → Prop
  | .object fields => ∀ s ∈ sections, ∀ v, Association.get? (s.1 : Text) fields = some v → IsSection s.2 v
  | .list items => ∀ name ∈ partNames, .text (name : Text) ∉ items
  | .text t => ∀ name ∈ partNames, ¬ (name : Text) <:+: t
  | _ => False

/-- The shape of a value as far as one part is concerned that has to be of a kind. -/
def ShapedPart (name : String) (Kind : Value → Prop) : Value → Prop
  | .object fields => ∀ v, Association.get? (name : Text) fields = some v → Kind v
  | .list items => .text (name : Text) ∉ items
  | .text t => ¬ (name : Text) <:+: t
  | _ => False

theorem shaped_iff (d : Value) : Shaped d ↔
    ShapedPart "detector" (IsSection ["encoding"]) d ∧
    ShapedPart "schema" (IsSection ["mappings_location", "search_paths"]) d ∧
    ShapedPart "document" (IsSection ["validation_mode", "namespace_aware", "no_network"]) d ∧
    ShapedPart "log_level" (fun _ => True) d := by
  cases d <;> simp [Shaped, ShapedPart, sections, partNames]

/-- A template of two levels with the values that `d` gives in the place of its own. -/
def laidOver (d : Value) : Value → Value
  | .object parts => .object (parts.map fun part =>
      (part.1, match part.2 with
        | .object settings => .object (settings.map fun setting =>
            (setting.1, ((d.under? part.1).bind (·.under? setting.1)).getD setting.2))
        | v => (d.under? part.1).getD v))
  | v => v

/-! ### Readers -/

/-- A reader accepts the values of a kind, of which it gives a result, and no others. -/
def Accepts {α : Type} (read : Value → Except Failure α) (Kind : Value → Prop) (result : Value → α) :
    Prop :=
  ∀ v, (Kind v ∧ read v = .ok (result v)) ∨ (¬ Kind v ∧ read v = .error .wrongType)

namespace Accepts

variable {α β : Type} {read : Value → Except Failure α} {Kind Kind' : Value → Prop} {result : Value → α}

theorem map (h : Accepts read Kind result) (f : α → β) :
    Accepts (fun v => do return f (← read v)) Kind (fun v => f (result v)) := by
  intro v
  rcases h v with ⟨hv, hread⟩ | ⟨hv, hread⟩
  · exact .inl ⟨hv, by simp only [hread]; rfl⟩
  · exact .inr ⟨hv, by simp only [hread]; rfl⟩

/-- Two readers of one value one after another. -/
theorem andThen {next : α → Value → Except Failure β} {result' : α → Value → β}
    (h : Accepts read Kind result) (hnext : ∀ a, Accepts (next a) Kind' (result' a)) :
    Accepts (fun v => do next (← read v) v) (fun v => Kind v ∧ Kind' v)
      fun v => result' (result v) v := by
  intro v
  rcases h v with ⟨hv, hread⟩ | ⟨hv, hread⟩
  · rcases hnext (result v) v with ⟨hv', hthen⟩ | ⟨hv', hthen⟩
    · exact .inl ⟨⟨hv, hv'⟩, by simp only [hread]; exact hthen⟩
    · exact .inr ⟨fun hboth => hv' hboth.2, by simp only [hread]; exact hthen⟩
  · exact .inr ⟨fun hboth => hv hboth.1, by simp only [hread]; rfl⟩

end Accepts

theorem accepts_sectionFields (known : List String) :
    Accepts (sectionFields known) (IsSection known) Value.fields := by
  intro v
  cases v with
  | object fields =>
    have hall : (fields.all fun f => known.any fun k => f.1 = (k : Text)) = true ↔
        IsSection known (.object fields) := by
      simp [IsSection]
    by_cases h : IsSection known (.object fields)
    · exact .inl ⟨h, if_pos (hall.2 h)⟩
    · exact .inr ⟨h, if_neg fun htrue => h (hall.1 htrue)⟩
  | _ => exact .inr ⟨by simp [IsSection], rfl⟩

/-- What is read from a part that may be absent. -/
theorem accepts_readPart {α : Type} {read : Value → Except Failure α} {Kind : Value → Prop}
    {result : Value → α} (h : Accepts read Kind result) (name : String) (fallback : α) :
    Accepts (readPart name fallback read) (ShapedPart name Kind) fun d =>
      ((d.under? name).map result).getD fallback := by
  intro d
  cases d with
  | object fields =>
    cases hget : Association.get? (name : Text) fields with
    | none =>
      have hhas : Association.has (name : Text) fields = false := by
        rw [Association.has_eq_isSome, hget]
        rfl
      refine .inl ⟨fun v hv => ?_, ?_⟩
      · rw [hget] at hv
        cases hv
      · simp [readPart, mentions, hhas, Value.under?, hget, bind, Except.bind, pure, Except.pure]
    | some v =>
      have hhas : Association.has (name : Text) fields = true := by
        rw [Association.has_eq_isSome, hget]
        rfl
      have hpart : readPart name fallback read (.object fields) = read v := by
        simp [readPart, mentions, valueUnder, hhas, hget, bind, Except.bind]
      have hkind : ShapedPart name Kind (.object fields) ↔ Kind v := by
        simp [ShapedPart, hget]
      rw [hpart, hkind]
      simpa [Value.under?, hget] using h v
  | list items =>
    have hany : (items.any fun v => v.same (.text name)) = true ↔ .text (name : Text) ∈ items := by
      simp [Value.same_text_iff]
    by_cases hmem : .text (name : Text) ∈ items
    · refine .inr ⟨fun hnot => hnot hmem, ?_⟩
      simp [readPart, mentions, hany.2 hmem, valueUnder, bind, Except.bind]
    · refine .inl ⟨hmem, ?_⟩
      have hfalse := Bool.eq_false_iff.2 fun htrue => hmem (hany.1 htrue)
      simp [readPart, mentions, hfalse, Value.under?, bind, Except.bind, pure, Except.pure]
  | text t =>
    by_cases hin : (name : Text) <:+: t
    · refine .inr ⟨fun hnot => hnot hin, ?_⟩
      simp [readPart, mentions, occursIn_iff.2 hin, valueUnder, bind, Except.bind]
    · refine .inl ⟨hin, ?_⟩
      have hfalse := Bool.eq_false_iff.2 fun htrue => hin (occursIn_iff.1 htrue)
      simp [readPart, mentions, hfalse, Value.under?, bind, Except.bind, pure, Except.pure]
  | _ => exact .inr ⟨id, rfl⟩

/-! ### Settings of a shape -/

/-- The fields of a part of a value. -/
def partFields (name : String) (d : Value) : List (Text × Value) :=
  ((d.under? name).map Value.fields).getD []

/-- A section that may be absent is read as the section without fields if it is. -/
theorem accepts_section {α : Type} (known : List String) (make : List (Text × Value) → α) (name : String) :
    Accepts (readPart name (make []) fun v => do return make (← sectionFields known v))
      (ShapedPart name (IsSection known)) fun d => make (partFields name d) := by
  have hmake : (fun d : Value => ((d.under? name).map fun v => make v.fields).getD (make [])) =
      fun d => make (partFields name d) := by
    funext d
    rw [partFields]
    cases d.under? name <;> rfl
  rw [← hmake]
  exact accepts_readPart ((accepts_sectionFields known).map make) name (make [])

def detectorOf (fields : List (Text × Value)) : DetectorSettings :=
  ⟨fieldOr "encoding" usual.detector.encoding fields⟩

def schemaOf (fields : List (Text × Value)) : SchemaSettings :=
  ⟨fieldOr "mappings_location" usual.schema.mappingsLocation fields,
    fieldOr "search_paths" usual.schema.searchPaths fields⟩

def documentOf (fields : List (Text × Value)) : DocumentSettings :=
  ⟨fieldOr "validation_mode" usual.document.validationMode fields,
    fieldOr "namespace_aware" usual.document.namespaceAware fields,
    fieldOr "no_network" usual.document.noNetwork fields⟩

/-- The settings that the parts of a value make. -/
def settingsOf (d : Value) : Settings where
  detector := detectorOf (partFields "detector" d)
  schema := schemaOf (partFields "schema" d)
  document := documentOf (partFields "document" d)
  logLevel := (d.under? ("log_level" : Text)).getD usual.logLevel

theorem accepts_ofValue : Accepts ofValue Shaped settingsOf := by
  have hlevel : Accepts (readPart "log_level" usual.logLevel .ok) (ShapedPart "log_level" fun _ => True)
      fun d => (d.under? ("log_level" : Text)).getD usual.logLevel := by
    simpa using accepts_readPart (fun v => .inl ⟨trivial, rfl⟩ : Accepts .ok (fun _ => True) id)
      "log_level" usual.logLevel
  intro d
  rw [shaped_iff]
  exact (accepts_section ["encoding"] detectorOf "detector").andThen
    (fun detector => (accepts_section ["mappings_location", "search_paths"] schemaOf "schema").andThen
      fun schema => (accepts_section ["validation_mode", "namespace_aware", "no_network"] documentOf
        "document").andThen fun document => hlevel.map (Settings.mk detector schema document)) d

theorem fieldOr_partFields (part name : String) (fallback d : Value) :
    fieldOr name fallback (partFields part d) =
      ((d.under? (part : Text)).bind (·.under? (name : Text))).getD fallback := by
  rw [fieldOr, partFields]
  cases d.under? (part : Text) with
  | none => rfl
  | some v => simp [Value.get?_fields]

/-- Reading fills in what a value does not say. -/
theorem toValue_settingsOf (d : Value) : (settingsOf d).toValue = laidOver d usual.toValue := by
  simp only [toValue, settingsOf, detectorOf, schemaOf, documentOf, fieldOr_partFields]
  rfl

/-- Settings are read back from the value that they make. -/
theorem ofValue_toValue (s : Settings) : ofValue s.toValue = .ok s := rfl

/-- Reading settings goes by the shape of the value. It succeeds on the values of the right shape and
refuses all others as of a wrong type. What is read has every section and setting, with the value that
is given for it or else the usual one, and is read again as itself, as all settings are. -/
theorem reads_by_shape (d : Value) :
    ((∃ s, ofValue d = .ok s) ↔ Shaped d) ∧
    (Shaped d ∨ ofValue d = .error .wrongType) ∧
    (∀ s, ofValue d = .ok s → s.toValue = laidOver d usual.toValue ∧ ofValue s.toValue = .ok s) ∧
    ∀ s : Settings, ofValue s.toValue = .ok s := by
  rcases accepts_ofValue d with ⟨hshaped, hread⟩ | ⟨hshaped, hread⟩
  · refine ⟨iff_of_true ⟨_, hread⟩ hshaped, .inl hshaped, fun s hs => ?_, ofValue_toValue⟩
    obtain rfl : settingsOf d = s := Except.ok.inj (hread.symm.trans hs)
    exact ⟨toValue_settingsOf d, ofValue_toValue _⟩
  · refine ⟨iff_of_false ?_ hshaped, .inr hread, fun s hs => ?_, ofValue_toValue⟩
    · rintro ⟨s, hs⟩
      rw [hread] at hs
      cases hs
    · rw [hread] at hs
      cases hs

end Settings

end SchemaGate
