import Mathlib.Data.List.Nodup
import SchemaGate.Proofs.Json.Ascii
import SchemaGate.Proofs.Settings.Saving
import SchemaGate.Proofs.Settings.Shape
import SchemaGate.Proofs.Text.Newlines

/-! Settings that are saved and loaded.

    Settings of their declared kinds are kept by JSON, which needs room for three values inside each other
    (`Declared.kept`), and what is written in JSON is
    the same text when it is read from the file (`decodeFile_bytesOf`). So such settings are saved in
    JSON wherever the file can be opened, and loaded from there as they were
    (`loads_what_was_saved`). -/

namespace SchemaGate.Settings

open Json (Kept)

variable {σ : Type} {s : Settings} {p : Path} {room inner : Option Nat}

/-! ### Declared kinds -/

/-- Every setting is of the kind that is declared for it: a text of characters, a list of such texts,
or a truth value. -/
structure Declared (s : Settings) : Prop where
  encoding : ∃ t : String, s.detector.encoding = .text t
  mappingsLocation : ∃ t : String, s.schema.mappingsLocation = .text t
  searchPaths : ∃ paths : List String,
    s.schema.searchPaths = .list (paths.map fun path : String => .text path)
  validationMode : ∃ t : String, s.document.validationMode = .text t
  namespaceAware : ∃ b : Bool, s.document.namespaceAware = .bool b
  noNetwork : ∃ b : Bool, s.document.noNetwork = .bool b
  logLevel : ∃ t : String, s.logLevel = .text t

theorem ofString_injective : Function.Injective Text.ofString := fun _ _ h =>
  String.toList_inj.1 (List.map_injective_iff.2 (fun _ _ => CodePoint.char.inj) h)

/-- An object is kept if its names are different strings and its values are kept. -/
theorem kept_object (hroom : Json.inside "object" room = .ok inner) (fields : List (String × Value))
    (hnodup : (fields.map Prod.fst).Nodup) (h : ∀ f ∈ fields, Kept inner f.2) :
    Kept room (.object (fields.map fun f => named f.1 f.2)) := by
  refine .object hroom ?_ ?_ ?_
  · rintro _ hf
    obtain ⟨f, -, rfl⟩ := List.mem_map.1 hf
    exact ⟨f.1, rfl⟩
  · have hfirst : (fields.map fun f => named f.1 f.2).map Prod.fst = (fields.map Prod.fst).map Text.ofString := by
      rw [List.map_map, List.map_map]
      rfl
    rw [hfirst]
    exact hnodup.map ofString_injective
  · rintro _ hmem
    obtain ⟨f, hf, rfl⟩ := List.mem_map.1 hmem
    exact h f hf

/-- Where there is room for one more value there is some inside, and one less. -/
theorem exists_inside {n : Nat} (h : ∀ r ∈ room, n + 1 ≤ r) (kind : Text) :
    ∃ inner, Json.inside kind room = .ok inner ∧ ∀ r ∈ inner, n ≤ r := by
  cases room with
  | none => exact ⟨none, rfl, by simp⟩
  | some r =>
    cases r with
    | zero => exact absurd (h 0 rfl) (Nat.not_succ_le_zero n)
    | succ r =>
      refine ⟨some r, rfl, fun inner hinner => ?_⟩
      rw [← Option.some.inj hinner]
      exact Nat.le_of_succ_le_succ (h (r + 1) rfl)

/-- Settings of their declared kinds are kept by JSON. The directories to search are a list in an object in
an object. -/
theorem Declared.kept (h : Declared s) (hroom : ∀ r ∈ room, 3 ≤ r) : Kept room s.toValue := by
  obtain ⟨first, hfirst, hroom⟩ := exists_inside hroom "object"
  obtain ⟨second, hsecond, hroom⟩ := exists_inside hroom "object"
  obtain ⟨third, hthird, -⟩ := exists_inside hroom "array"
  obtain ⟨⟨encoding, hencoding⟩, ⟨location, hlocation⟩, ⟨paths, hpaths⟩, ⟨mode, hmode⟩, ⟨aware, haware⟩,
    ⟨offline, hoffline⟩, ⟨level, hlevel⟩⟩ := h
  have hsearch : Kept second (.list (paths.map fun path : String => .text path)) := by
    refine .list hthird fun v hv => ?_
    obtain ⟨path, -, rfl⟩ := List.mem_map.1 hv
    exact .text path
  have hdetector := kept_object hsecond [("encoding", .text encoding)] (by simp) (by simp [Kept.text])
  have hschema := kept_object hsecond [("mappings_location", .text location),
    ("search_paths", .list (paths.map fun path : String => .text path))] (by simp)
    (by simp [Kept.text, hsearch])
  have hdocument := kept_object hsecond [("validation_mode", .text mode), ("namespace_aware", .bool aware),
    ("no_network", .bool offline)] (by simp) (by simp [Kept.text, Kept.bool])
  have hall := kept_object hfirst [("detector", _), ("schema", _), ("document", _), ("log_level", .text level)]
    (by simp) (List.forall_mem_cons.2 ⟨hdetector, List.forall_mem_cons.2 ⟨hschema,
      List.forall_mem_cons.2 ⟨hdocument, by simp [Kept.text]⟩⟩⟩)
  rw [toValue, hencoding, hlocation, hpaths, hmode, haware, hoffline, hlevel]
  exact hall

/-! ### Files -/

theorem toBytes?_map_char (cs : List Char) : Text.toBytes? (cs.map .char) = some (Utf8.encode cs) := by
  have hchars : (cs.map .char).mapM CodePoint.char? = some cs := by
    induction cs with
    | nil => rfl
    | cons c cs ih =>
      rw [List.map_cons, List.mapM_cons, ih]
      rfl
  rw [Text.toBytes?, hchars]
  rfl

theorem decodeFile_encode (cs : List Char) :
    decodeFile (Utf8.encode cs) = .ok (Text.joinNewlines (cs.map .char)) := by
  have hread := Utf8.readBytes_encode cs Utf8.leads_nil true
  rw [List.append_nil] at hread
  have hall : Encoding.utf8.decodeAll (Utf8.encode cs) = .ok cs := by
    unfold Encoding.decodeAll
    rw [show Decoder.start .utf8 = Utf8.decoder [] true from rfl, hread]
    rfl
  rw [decodeFile, hall]

/-- Printable ASCII is read from a file as it was written. -/
theorem decodeFile_bytesOf {t : Text} (h : t.all Json.isPlain = true) : decodeFile (bytesOf t) = .ok t := by
  obtain ⟨cs, rfl⟩ := Json.exists_chars_of_all_isPlain h
  have hreturn : CodePoint.char '\r' ∉ cs.map CodePoint.char := fun hmem =>
    absurd (List.all_eq_true.1 h _ hmem) (by decide)
  rw [bytesOf, toBytes?_map_char, Option.getD_some, decodeFile_encode, Text.joinNewlines_of_not_mem hreturn]

/-! ### Saving and loading -/

/-- Values that JSON keeps are written to their end. -/
theorem writing_of_kept (hjson : suffixOf p = ".json") (h : Kept room s.toValue) (y : Formats) :
    writing y s p = (Json.printIndented s.toValue, .ok ()) := by
  have hfront : Json.frontAt 0 s.toValue = none := (Json.frontAt_eq_none_iff 0 _).2 h.holdsLong
  rw [writing_of_json hjson, printFormat, hfront]

/-- A file that holds settings in JSON is loaded as these settings. -/
theorem runIn_load (hjson : suffixOf p = ".json") {y : Formats} (h : Kept y.nesting s.toValue)
    {w : World σ} (hread : w.files.read p.text = .ok (bytesOf (Json.printIndented s.toValue))) :
    Run.runIn (load y p) w =
      (.ok s, w.told (.logged ⟨.info, .settings, "Loaded configuration from " ++ p.text⟩)) := by
  have hformat : formatOf y (suffixOf p) = .ok (.json y.nesting) := by rw [hjson]; rfl
  have htext : decodeFile (bytesOf (Json.printIndented s.toValue)) = .ok (Json.printIndented s.toValue) :=
    decodeFile_bytesOf (h.all_isPlain_printAt 0)
  have hvalue : readFormat (.json y.nesting) (Json.printIndented s.toValue) = .ok s.toValue := by
    rw [readFormat, h.read_printIndented]
    rfl
  simp only [load, Run.runIn_bind, Run.runIn_askFiles, FileSystem.pathExists_of_read hread]
  rw [if_neg (by decide)]
  simp only [Run.runIn_bind, Run.runIn_askFiles, Run.runIn_ofExcept, Run.runIn_log, hread, hformat, htext,
    hvalue, ofValue_toValue]

/-- Settings of their declared kinds are saved in JSON exactly where a file can be opened, and loaded from
there as they were, also by a reader that has bounds, if three values may be inside each other. -/
theorem loads_what_was_saved (hdeclared : Declared s) (hjson : suffixOf p = ".json") (y : Formats)
    {y' : Formats} (hroom : ∀ room ∈ y'.nesting, 3 ≤ room) (w : World σ) :
    ((∃ w', Run.runIn (save y s p) w = (.ok (), w')) ↔ Opens w.files p) ∧
    ∀ w', Run.runIn (save y s p) w = (.ok (), w') →
      ∃ w'', Run.runIn (load y' p) w' = (.ok s, w'') ∧ w''.files = w'.files := by
  have hwriting := writing_of_kept hjson (hdeclared.kept hroom) y
  by_cases hopens : Opens w.files p
  · obtain ⟨fs₁, fs, hmake, hempty⟩ := hopens
    obtain ⟨fs₂, hwrite⟩ := FileSystem.exists_write hempty (bytesOf (writing y s p).1)
    have hsave := runIn_save_of_write hmake hwrite
    rw [hwriting] at hwrite hsave
    refine ⟨iff_of_true ⟨_, hsave⟩ ⟨fs₁, fs, hmake, hempty⟩, fun w' hrun => ?_⟩
    obtain rfl : World.told { w with files := fs₂ } (saved p) = w' :=
      congrArg Prod.snd (hsave.symm.trans hrun)
    obtain ⟨place, number, hwrote⟩ := FileSystem.exists_wrote hwrite
    exact ⟨_, runIn_load hjson (hdeclared.kept hroom) hwrote.read, rfl⟩
  · obtain ⟨f, hsave⟩ := runIn_save_of_not_opens (y := y) (s := s) hopens
    refine ⟨iff_of_false ?_ hopens, fun w' hrun => ?_⟩
    · rintro ⟨w', hrun⟩
      rw [hsave] at hrun
      cases hrun
    · rw [hsave] at hrun
      cases hrun

/-- Settings with characters that are escaped. -/
def unusual : Settings where
  detector := ⟨.text "\"\\\n\x01é😀"⟩
  schema := ⟨.text "", .list [.text "schemas", .text "/"]⟩
  document := ⟨.text "dtd", .bool true, .bool false⟩
  logLevel := .text "INFO"

theorem declared_unusual : Declared unusual where
  encoding := ⟨_, rfl⟩
  mappingsLocation := ⟨_, rfl⟩
  searchPaths := ⟨["schemas", "/"], rfl⟩
  validationMode := ⟨_, rfl⟩
  namespaceAware := ⟨_, rfl⟩
  noNetwork := ⟨_, rfl⟩
  logLevel := ⟨_, rfl⟩

/-- JSON as the only format, with as much room as settings need. -/
def bounded : Formats := ⟨none, some 3⟩

/-- Two directories are missing, and the suffix is in other letters. -/
theorem loads_what_was_saved_unusual :
    Declared unusual ∧ suffixOf (Path.ofText "new/deep/a.JsOn") = ".json" ∧
    (∀ room ∈ bounded.nesting, 3 ≤ room) ∧
    ∃ w' w'', Run.runIn (save onlyJson unusual (Path.ofText "new/deep/a.JsOn"))
        (World.start (FileSystem.empty []) ()) = (.ok (), w') ∧
      Run.runIn (load bounded (Path.ofText "new/deep/a.JsOn")) w' = (.ok unusual, w'') := by
  have hjson : suffixOf (Path.ofText "new/deep/a.JsOn") = ".json" := rfl
  have hopens : Opens (FileSystem.empty []) (Path.ofText "new/deep/a.JsOn") := ⟨_, _, rfl, rfl⟩
  have hroom : ∀ room ∈ bounded.nesting, 3 ≤ room := by simp [bounded]
  have hboth := loads_what_was_saved declared_unusual hjson onlyJson hroom
    (World.start (FileSystem.empty []) ())
  obtain ⟨w', hsave⟩ := hboth.1.2 hopens
  obtain ⟨w'', hload, -⟩ := hboth.2 w' hsave
  exact ⟨declared_unusual, hjson, hroom, w', w'', hsave, hload⟩

end SchemaGate.Settings
