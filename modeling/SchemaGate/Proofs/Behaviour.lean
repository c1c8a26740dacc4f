import SchemaGate.Proofs.Encoding.ByteOrder
import SchemaGate.Proofs.Files.FileSystem
import SchemaGate.Proofs.Outcome
import SchemaGate.Proofs.Resource.Resolver

/-! How runs fail, and in whose name they log.

    A command answers some failures with a complaint, those of the system and those of the library's own
    pipeline (`Failure.isAnswered`), and no others. So it matters which failures a run can end with. It
    matters also that no record of the command itself is written on the way, since that is the one record
    by which its complaint is known. Both are said at once (`Run.Behaves`), and of the steps of a
    resolver that searches directories. -/

namespace SchemaGate

open Run (runIn runIn_bind runIn_bind_eq_ok)

/-- Is it a failure that the commands answer with a complaint? -/
def Failure.isAnswered (f : Failure) : Bool := f.isSystem || f.isPipeline

theorem Failure.isAnswered_of_isSystem {f : Failure} (h : f.isSystem = true) :
    f.isAnswered = true := by
  rw [isAnswered, h, Bool.true_or]

namespace Run

variable {σ α β : Type} {P Q : Failure → Prop}

/-- The records among the events are not those of the command itself. -/
def Impersonal (told : List Event) : Prop := ∀ r ∈ Run.records told, r.topic ≠ .commandLine

theorem records_append (a b : List Event) : Run.records (a ++ b) = Run.records a ++ Run.records b :=
  List.filterMap_append

theorem Impersonal.append {a b : List Event} (ha : Impersonal a) (hb : Impersonal b) :
    Impersonal (a ++ b) := by
  intro r hr
  rw [records_append, List.mem_append] at hr
  exact hr.elim (ha r) (hb r)

/-- A run fails, if it does, with a failure of a kind, and writes no record of the command itself. -/
def Behaves (P : Failure → Prop) (action : Run σ α) : Prop :=
  ∀ w, (∀ f, (runIn action w).1 = .error f → P f) ∧
    ∃ told, (runIn action w).2.events = w.events ++ told ∧ Impersonal told

namespace Behaves

theorem mono {action : Run σ α} (h : Behaves P action) (himp : ∀ f, P f → Q f) : Behaves Q action :=
  fun w => ⟨fun f hf => himp f ((h w).1 f hf), (h w).2⟩

theorem pure (a : α) : Behaves P (Pure.pure a : Run σ α) :=
  fun _ => ⟨nofun, [], (List.append_nil _).symm, nofun⟩

theorem throw {f : Failure} (h : P f) : Behaves P (MonadExcept.throw f : Run σ α) := by
  refine fun w => ⟨fun g hg => ?_, [], (List.append_nil _).symm, nofun⟩
  cases hg
  exact h

theorem get : Behaves P (MonadState.get : Run σ (World σ)) :=
  fun _ => ⟨nofun, [], (List.append_nil _).symm, nofun⟩

theorem update {change : World σ → World σ} (h : ∀ w, (change w).events = w.events) :
    Behaves P (modify change : Run σ PUnit) :=
  fun w => ⟨nofun, [], (h w).trans (List.append_nil _).symm, nofun⟩

theorem tableAt (place : Nat) : Behaves P (Run.tableAt place : Run σ Mappings) :=
  fun _ => ⟨nofun, [], (List.append_nil _).symm, nofun⟩

theorem newTable (table : Mappings) : Behaves P (Run.newTable table : Run σ Nat) :=
  fun _ => ⟨nofun, [], (List.append_nil _).symm, nofun⟩

theorem tell {e : Event} (h : Impersonal [e]) : Behaves P (Run.tell e : Run σ Unit) :=
  fun _ => ⟨nofun, [e], rfl, h⟩

theorem log (level : Level) {topic : Topic} (text : Text) (h : topic ≠ .commandLine) :
    Behaves P (Run.log level topic text : Run σ Unit) :=
  tell fun r hr => by
    obtain rfl := List.mem_singleton.1 hr
    exact h

theorem report (severity : Severity) (finding : Finding) :
    Behaves P (Run.report severity finding : Run σ Unit) := tell nofun

theorem ofExcept {result : Except Failure α} (h : ∀ f, result = .error f → P f) :
    Behaves P (Run.ofExcept result : Run σ α) := by
  cases result with
  | ok a => exact pure a
  | error f => exact throw (h f rfl)

theorem askFiles {question : FileSystem → Except Failure α}
    (h : ∀ fs f, question fs = .error f → P f) : Behaves P (Run.askFiles question : Run σ α) := by
  intro w
  rw [runIn_askFiles]
  exact ⟨h w.files, [], (List.append_nil _).symm, nofun⟩

/-- What follows has to behave for what the first run can return. -/
theorem bind {action : Run σ α} {next : α → Run σ β} (h : Behaves P action)
    (hnext : ∀ a, (∃ w w', runIn action w = (.ok a, w')) → Behaves P (next a)) :
    Behaves P (action >>= next) := by
  intro w
  obtain ⟨hfails, told, hevents, htold⟩ := h w
  rw [runIn_bind]
  rcases hrun : runIn action w with ⟨f | a, w₁⟩ <;> rw [hrun] at hfails hevents
  · refine ⟨fun g hg => ?_, told, hevents, htold⟩
    cases hg
    exact hfails f rfl
  · obtain ⟨hfails', more, hevents', hmore⟩ := hnext a ⟨w, w₁, hrun⟩ w₁
    refine ⟨hfails', told ++ more, ?_, htold.append hmore⟩
    rw [hevents', hevents, List.append_assoc]

theorem tryCatch {action : Run σ α} {handle : Failure → Run σ α} (h : Behaves P action)
    (hhandle : ∀ f, P f → Behaves Q (handle f)) :
    Behaves Q (MonadExcept.tryCatch action handle) := by
  intro w
  obtain ⟨hfails, told, hevents, htold⟩ := h w
  rw [runIn_tryCatch]
  rcases hrun : runIn action w with ⟨f | a, w₁⟩ <;> rw [hrun] at hfails hevents
  · obtain ⟨hfails', more, hevents', hmore⟩ := hhandle f (hfails f rfl) w₁
    refine ⟨hfails', told ++ more, ?_, htold.append hmore⟩
    rw [hevents', hevents, List.append_assoc]
  · exact ⟨nofun, told, hevents, htold⟩

theorem forM {action : β → Run σ Unit} {items : List β} (h : ∀ b ∈ items, Behaves P (action b)) :
    Behaves P (items.forM action) := by
  induction items with
  | nil => exact pure ()
  | cons b items ih =>
    rw [List.forall_mem_cons] at h
    exact bind h.1 fun _ _ => ih h.2

theorem foldlM {step : β → α → Run σ β} (h : ∀ b a, Behaves P (step b a)) (b : β) (items : List α) :
    Behaves P (items.foldlM step b) := by
  induction items generalizing b with
  | nil => exact pure b
  | cons a items ih =>
    rw [List.foldlM_cons]
    exact bind (h b a) fun b' _ => ih b'

end Behaves

/-- Failing in ways of a kind only is a discipline. -/
def behaving (σ : Type) (P : Failure → Prop) : Discipline (Run σ) where
  Holds := Behaves P
  pure := .pure
  bind h hnext := .bind h fun a _ => hnext a

end Run

open Run (Behaves)

/-! ### Loaders -/

/-- An encoding that knows how to read what comes refuses nothing, malformed bytes aside. -/
theorem Encoding.decodeAll_ne_refused {e : Encoding} (h : (Decoder.start e).Settled) (bytes : Bytes) :
    e.decodeAll bytes ≠ .error .refused := by
  rw [decodeAll]
  obtain ⟨d, cs, hread, hd⟩ | hread := h.readBytes bytes
  · rw [hread]
    have hfinish := Decoder.finish_ne_refused hd.encoding
    cases hend : d.finish with
    | error fault =>
      rw [hend] at hfinish
      simpa [hend] using hfinish
    | ok => simp [hend, hd.unmarked]
  · rw [hread]
    exact nofun

/-- Whatever a loader is asked for, it fails only where the system refuses it or a table does not decode,
and it writes no record of the command itself. -/
structure ResourceLoader.Behaves {σ : Type} (loader : ResourceLoader σ) : Prop where
  loadAll : ∀ location,
    Run.Behaves (fun f => f.isSystem = true ∨ f = .undecodable) (loader.loadAll location)
  openResource : ∀ path, Run.Behaves (fun f => f.isSystem = true) (loader.openResource path)

namespace DirectoryLoader

variable {σ : Type} {d : DirectoryLoader}

/-- In the usual encoding of tables a file is read or does not decode. -/
theorem undecodable_of_readText {codecs : Codecs} {bytes : Bytes} {f : Failure}
    (h : readText codecs usualEncoding bytes = .error f) : f = .undecodable := by
  have hfind : Encoding.find usualEncoding = .ok (.known .latin1) := by rfl
  have hne := Encoding.decodeAll_ne_refused (.start nofun rfl : (Decoder.start .latin1).Settled) bytes
  simp only [readText, hfind, bind, Except.bind, TextEncoding.decodeAll] at h
  cases hall : Encoding.latin1.decodeAll bytes with
  | ok cs =>
    rw [hall] at h
    cases h
  | error fault =>
    rw [hall] at h
    cases fault with
    | malformed =>
      cases h
      rfl
    | refused => exact absurd hall hne

theorem readCandidate_behaves (hd : d.encoding = usualEncoding) (merged : Mappings) (candidate : Path) :
    Behaves (fun f => f.isSystem = true ∨ f = .undecodable)
      (d.readCandidate merged candidate : Run σ Mappings) := by
  intro w
  rw [runIn_readCandidate]
  cases hfile : w.files.isFile candidate.text with
  | error f =>
    refine ⟨fun g hg => ?_, [], (List.append_nil _).symm, nofun⟩
    cases hg
    exact .inl (FileSystem.isSystem_of_isFile hfile)
  | ok isFile =>
    cases isFile with
    | false => exact Behaves.pure merged w
    | true =>
      refine ⟨fun g hg => ?_, [reading candidate], rfl, fun r hr => ?_⟩
      · obtain ⟨bytes, hread⟩ | ⟨f, hread, hsystem, -⟩ := FileSystem.read_of_isFile hfile
        · cases htext : readText d.codecs d.encoding bytes with
          | ok text => simp [hread, htext, bind, Except.bind, Except.map] at hg
          | error f =>
            obtain rfl : f = g := by simpa [hread, htext, bind, Except.bind, Except.map] using hg
            exact .inr (undecodable_of_readText (hd ▸ htext))
        · obtain rfl : f = g := by simpa [hread, bind, Except.bind, Except.map] using hg
          exact .inl hsystem
      · obtain rfl := List.mem_singleton.1 hr
        exact nofun

theorem openFirst_behaves (candidates : List Path) :
    Behaves (fun f => f.isSystem = true) (openFirst candidates : Run σ (Option Bytes)) := by
  induction candidates with
  | nil => exact .pure none
  | cons candidate rest ih =>
    intro w
    rw [runIn_openFirst_cons]
    cases hfile : w.files.isFile candidate.text with
    | error f =>
      refine ⟨fun g hg => ?_, [], (List.append_nil _).symm, nofun⟩
      cases hg
      exact FileSystem.isSystem_of_isFile hfile
    | ok isFile =>
      cases isFile with
      | false => exact ih w
      | true =>
        obtain ⟨bytes, hread⟩ | ⟨f, hread, hsystem, -⟩ := FileSystem.read_of_isFile hfile
        · rw [hread]
          exact Behaves.pure (some bytes) w
        · rw [hread]
          exact Behaves.throw hsystem w

theorem toLoader_behaves (hd : d.encoding = usualEncoding) : (d.toLoader (σ := σ)).Behaves where
  loadAll location :=
    .bind (.foldlM (fun merged candidate => readCandidate_behaves hd merged candidate) _ _) fun _ _ =>
      .newTable _
  openResource path := by
    refine .bind (openFirst_behaves _) fun found _ => ?_
    cases found with
    | none => exact .throw rfl
    | some bytes => exact .pure bytes

end DirectoryLoader

/-! ### Resolvers -/

namespace SchemaResolver

variable {σ : Type} {r : SchemaResolver σ}

/-- A source that a resolver hands out holds its bytes. -/
def Holding (source : InputSource) : Prop := ∃ bytes, ∀ fs, (source.read fs).1 = .ok bytes

theorem holding_of_opened {publicId : Option Text} {id : Text} {result : Except Failure Bytes}
    {source : InputSource} (h : opened publicId id result = .ok (some source)) : Holding source := by
  cases result with
  | ok bytes =>
    cases h
    exact ⟨bytes, fun _ => rfl⟩
  | error f =>
    rw [opened] at h
    split at h <;> cases h

theorem holding_of_resolve {publicId systemId : Option Text} {source : InputSource} {w w' : World σ}
    (h : runIn (r.resolve publicId systemId) w = (.ok (some source), w')) : Holding source := by
  cases systemId with
  | none => cases h
  | some id =>
    rw [runIn_resolve_some] at h
    obtain ⟨table, w₁, -, hserve⟩ := runIn_bind_eq_ok.1 h
    have hanswer := r.runIn_serve publicId id table w₁
    rw [hserve] at hanswer
    cases hlocation : locationIn table id with
    | none =>
      rw [hlocation] at hanswer
      cases hanswer
    | some location =>
      rw [hlocation] at hanswer
      exact holding_of_opened hanswer.symm

variable (h : r.loader.Behaves)

include h

theorem loadTable_behaves : Behaves (fun f => f.isAnswered = true) r.loadTable := by
  refine .bind (.log _ _ nofun) fun _ _ => .bind (.tryCatch (h.loadAll _) fun f hf => .throw ?_)
    fun place _ => .bind (.tableAt place) fun _ _ => .bind (.log _ _ nofun) fun _ _ =>
      .bind (.tableAt place) fun _ _ => .newTable _
  rcases hf with hsystem | rfl
  · cases f <;> cases hsystem
    rfl
  · rfl

theorem mappings_behaves : Behaves (fun f => f.isAnswered = true) r.mappings := by
  refine .bind (.bind .get fun w _ => ?_) fun place _ => .tableAt place
  split
  · exact .pure _
  · exact .bind (loadTable_behaves h) fun place _ => .bind (.update fun _ => rfl) fun _ _ => .pure place

theorem serve_behaves (publicId : Option Text) (id : Text) (table : Mappings) :
    Behaves (fun f => f.isAnswered = true) (r.serve publicId id table) := by
  rw [serve]
  cases locationIn table id with
  | none => exact .pure none
  | some location =>
    have hopen := h.openResource location
    refine .bind (.tryCatch (.bind hopen fun bytes _ => .pure _) fun f _ => .pure _) fun outcome hout => ?_
    cases outcome with
    | ok bytes => exact .bind (.log _ _ (by simp)) fun _ _ => .pure _
    | error f =>
      obtain ⟨w, w', hrun⟩ := hout
      have hfailed : (runIn (r.loader.openResource location) w).1 = .error f :=
        Except.ok.inj (congrArg Prod.fst ((runIn_observe _ w).symm.trans hrun))
      dsimp only
      split
      · exact .bind (.log _ _ (by simp)) fun _ _ => .pure none
      · exact .throw (Failure.isAnswered_of_isSystem ((hopen w).1 f hfailed))

theorem resolve_behaves (publicId systemId : Option Text) :
    Behaves (fun f => f.isAnswered = true) (r.resolve publicId systemId) := by
  refine .bind (.log _ _ nofun) fun _ _ => ?_
  cases systemId with
  | none => exact .pure none
  | some id => exact .bind (mappings_behaves h) fun table _ => serve_behaves h publicId id table

end SchemaResolver

end SchemaGate
