import SchemaGate.CommandLine.Run
import SchemaGate.Proofs.Loading.Sharing
import SchemaGate.Proofs.Report

/-! What the status of loading says.

    Before a document is loaded there are settings to be read, a threshold to be chosen and a reader to
    be made (`Prepared`). The collecting handler then hears of the document, and status, output and
    complaint are taken from what it has heard (`load_of_prepared`). Its report was kept entry by entry,
    so the status agrees with the entries, and the summary with both (`status_tells_what_was_heard`). -/

namespace SchemaGate.CommandLine

open Run (runIn Behaves Impersonal)

variable {p : Platform} {fs : FileSystem} {isVerbose : Bool} {a : LoadArguments} {threshold : Nat}
  {reader : DefinitionReader Unit}

/-- The threshold of a load with settings. -/
def thresholdFor (isVerbose : Bool) (s : Settings) : Except Failure Nat :=
  if isVerbose then .ok Level.debug.rank else CommandLine.threshold s.logLevel

/-- There are settings to load with, and they give a threshold and a reader. -/
def Prepared (p : Platform) (fs : FileSystem) (isVerbose : Bool) (a : LoadArguments) (threshold : Nat)
    (reader : DefinitionReader Unit) : Prop :=
  ∃ s, (settingsFor p.formats fs a.config).1 = .ok s ∧ thresholdFor isVerbose s = .ok threshold ∧
    DefinitionReader.ofSettings p.codecs p.engine fs (overridden s a) = .ok reader

/-- What the command's handler makes of the file. -/
def heardOf (fs : FileSystem) (reader : DefinitionReader Unit) (file : Path) : Heard LoadedDocument :=
  (reader.loadHeard (.collector (some file.text)) (World.start fs ()) file).1

/-- What is to be written about a document: the mode in which it was loaded and its outermost tag, and the
entries of the report if there are any, under the verdict of the status. -/
def account (file : Path) (d : LoadedDocument) (status : Nat) (entries : List Entry) : Text :=
  let line : Text :=
    file.text ++ ": " ++ d.mode.name ++ " <" ++ Loading.rootTag d.document ++ ">\n"
  if entries = [] then line else line ++ Report.summaryOf (status = 0) entries ++ "\n"

/-- The records of the command itself. -/
def ownRecords (o : Outcome) : List Record := o.records.filter fun r => r.topic = .commandLine

/-! ### The command and its reader -/

theorem load_eq (p : Platform) (fs : FileSystem) (isVerbose : Bool) (a : LoadArguments) :
    load p fs isVerbose a =
      let early := Record.passing firstThreshold (settingsFor p.formats fs a.config).2
      match (settingsFor p.formats fs a.config).1 with
      | .error f => ⟨[], early, .error f⟩
      | .ok s =>
        match thresholdFor isVerbose s with
        | .error f => ⟨[], early, .error f⟩
        | .ok threshold =>
          let o := loadWith p fs (overridden s a) a.file
          { o with records := early ++ Record.passing threshold o.records } := by
  rw [load]
  rcases settingsFor p.formats fs a.config with ⟨f | s, early⟩
  · rfl
  · cases isVerbose with
    | true => rfl
    | false =>
      cases hlevel : CommandLine.threshold s.logLevel <;>
        simp [thresholdFor, hlevel, bind, Except.bind, pure, Except.pure]

theorem load_of_prepared (h : Prepared p fs isVerbose a threshold reader) :
    let o := loadEnding a.file ((heardOf fs reader a.file).handler.report?.getD .empty)
      (heardOf fs reader a.file).outcome
    load p fs isVerbose a = { o with
      records := Record.passing firstThreshold (settingsFor p.formats fs a.config).2 ++
        Record.passing threshold ((heardOf fs reader a.file).records ++ o.records) } := by
  obtain ⟨s, hsettings, hthreshold, hreader⟩ := h
  simp only [load_eq, hsettings, hthreshold, loadWith, hreader]
  rfl

/-- A command that ends with a status has come as far as loading. -/
theorem exists_prepared {status : Nat} (h : (load p fs isVerbose a).ending = .ok status) :
    ∃ threshold reader, Prepared p fs isVerbose a threshold reader := by
  rw [load_eq] at h
  cases hsettings : (settingsFor p.formats fs a.config).1 with
  | error f => simp [hsettings] at h
  | ok s =>
    cases hthreshold : thresholdFor isVerbose s with
    | error f => simp [hsettings, hthreshold] at h
    | ok threshold =>
      cases hreader : DefinitionReader.ofSettings (σ := Unit) p.codecs p.engine fs (overridden s a) with
      | error f => simp [hsettings, hthreshold, loadWith, hreader] at h
      | ok reader => exact ⟨threshold, reader, s, hsettings, hthreshold, hreader⟩

/-! ### Whose records -/

theorem Settings.load_behaves (formats : Settings.Formats) (path : Path) :
    Behaves (fun _ => True) (Settings.load formats path : Run Unit Settings) := by
  have hread : Behaves (fun _ => True) (do
      let bytes ← Run.askFiles fun fs => fs.read path.text
      let format ← Run.ofExcept (Settings.formatOf formats (Settings.suffixOf path))
      let text ← Run.ofExcept (Settings.decodeFile bytes)
      let value ← Run.ofExcept (Settings.readFormat format text)
      Run.log .info .settings ("Loaded configuration from " ++ path.text)
      Run.ofExcept (Settings.ofValue value) : Run Unit Settings) := by
    refine .bind (.askFiles fun _ _ _ => trivial) fun bytes _ => ?_
    refine .bind (.ofExcept fun _ _ => trivial) fun format _ => ?_
    refine .bind (.ofExcept fun _ _ => trivial) fun text _ => ?_
    refine .bind (.ofExcept fun _ _ => trivial) fun value _ => ?_
    exact .bind (.log _ _ nofun) fun _ _ => .ofExcept fun _ _ => trivial
  refine .bind (.askFiles fun _ _ _ => trivial) ?_
  intro isThere _
  dsimp only
  split
  · exact .bind (.throw trivial) fun _ _ => hread
  · exact hread

theorem impersonal_settingsFor (formats : Settings.Formats) (fs : FileSystem) (config : Option Path) :
    ∀ r ∈ (settingsFor formats fs config).2, r.topic ≠ .commandLine := by
  cases config with
  | none => exact nofun
  | some path =>
    obtain ⟨-, told, hevents, htold⟩ := Settings.load_behaves formats path (World.start fs ())
    change ∀ r ∈ Run.records (runIn (Settings.load formats path) (World.start fs ())).2.events, _
    rw [hevents]
    exact htold

/-- The handler has heard the whole story of loading the file, in which the command itself says
nothing. -/
theorem heardOf_eq (fs : FileSystem) (h : reader.resolver.loader.Behaves) (file : Path) :
    ∃ told : List Event, heardOf fs reader file = ⟨.collecting (some file.text)
        (((problems told).map (Handler.entry (some file.text))).foldl Report.add .empty),
        Run.records told, (runIn (reader.load file) (World.start fs ())).1⟩ ∧ Impersonal told := by
  obtain ⟨-, told, hevents, htold⟩ := DefinitionReader.load_behaves h file (World.start fs ())
  have hstory : (runIn (reader.load file) (World.start fs ())).2.events = told := hevents
  have hattend : heardOf fs reader file = (Handler.collecting (some file.text) .empty).attend
      (runIn (reader.load file) (World.start fs ())).2.events
      (runIn (reader.load file) (World.start fs ())).1 := rfl
  refine ⟨told, ?_, htold⟩
  rw [hattend, hstory, Handler.attend, Handler.hearAll_collecting]
  rfl

theorem Prepared.behaves (h : Prepared p fs isVerbose a threshold reader) :
    reader.resolver.loader.Behaves := by
  obtain ⟨s, -, -, hreader⟩ := h
  exact DefinitionReader.loader_behaves_of_settings hreader

/-- Of such records none is the command's, whatever the threshold. -/
theorem filter_passing {records : List Record} (h : ∀ r ∈ records, r.topic ≠ .commandLine)
    (threshold : Nat) :
    (Record.passing threshold records).filter (fun r => r.topic = .commandLine) = [] := by
  rw [List.filter_eq_nil_iff]
  intro r hr
  have hmem : r ∈ records := (List.mem_filter.1 hr).1
  simpa using h r hmem

/-- What the command logs of its own is its complaint, if it has one and the threshold lets it through. -/
theorem ownRecords_of_prepared (h : Prepared p fs isVerbose a threshold reader) :
    ownRecords (load p fs isVerbose a) = (Record.passing threshold
      (loadEnding a.file ((heardOf fs reader a.file).handler.report?.getD .empty)
        (heardOf fs reader a.file).outcome).records).filter fun r => r.topic = .commandLine := by
  obtain ⟨told, hheard, htold⟩ := heardOf_eq fs h.behaves a.file
  have hearly := filter_passing (impersonal_settingsFor p.formats fs a.config) firstThreshold
  have hrecords : (heardOf fs reader a.file).records = Run.records told := by rw [hheard]
  have hloading := filter_passing htold threshold
  rw [ownRecords, load_of_prepared h, hrecords]
  simp only [List.filter_append, hearly, List.nil_append]
  rw [Record.passing, List.filter_append, List.filter_append, ← Record.passing, hloading,
    List.nil_append]
  rfl

/-! ### The report -/

/-- The entries that a report has from problems are warnings and errors. -/
theorem isError_or_isWarning_entry (source : Option Text) (p : Problem) :
    Report.isError (Handler.entry source p) = true ∨ Report.isWarning (Handler.entry source p) = true := by
  rcases p with ⟨_ | _ | _, finding⟩
  · exact .inr rfl
  · exact .inl rfl
  · exact .inl rfl

/-- What is written about a document is the account of it under the verdict of its report. -/
theorem loadedText_eq (file : Path) (d : LoadedDocument) {status : Nat} {source : Option Text}
    (told : List Event) :
    let report := ((problems told).map (Handler.entry source)).foldl Report.add .empty
    (status = 0 ↔ report.isValid = true) →
      loadedText file d report = account file d status report.entries := by
  intro report hstatus
  have htallied : report.Tallied := Report.tallied_foldl_add _ Report.tallied_empty
  have hentries : report.entries = (problems told).map (Handler.entry source) :=
    Report.entries_foldl_add _ _
  rw [loadedText, account]
  by_cases hempty : report.entries = []
  · simp [hempty, Text.ofString]
  · have hknown : ∀ e ∈ report.entries, Report.isError e = true ∨ Report.isWarning e = true := by
      intro e he
      rw [hentries] at he
      obtain ⟨p, -, rfl⟩ := List.mem_map.1 he
      exact isError_or_isWarning_entry source p
    have hverdict : report.isValid = decide (status = 0) := by
      rw [Bool.eq_iff_iff, ← hstatus, decide_eq_true_iff]
    rw [htallied.summary_eq hempty hknown, hverdict]
    simp [hempty]

/-! ### The status -/

/-- What the handler has reported of the file. -/
def reportOf (fs : FileSystem) (reader : DefinitionReader Unit) (file : Path) : Report :=
  (heardOf fs reader file).handler.report?.getD .empty

theorem load_of_loaded (h : Prepared p fs isVerbose a threshold reader) {d : LoadedDocument}
    (hout : (heardOf fs reader a.file).outcome = .ok d) :
    (load p fs isVerbose a).ending = .ok (if (reportOf fs reader a.file).isValid then 0 else 1) ∧
      (load p fs isVerbose a).output = loadedText a.file d (reportOf fs reader a.file) ∧
      ownRecords (load p fs isVerbose a) = [] := by
  rw [ownRecords_of_prepared h, load_of_prepared h, hout]
  exact ⟨rfl, rfl, rfl⟩

theorem load_of_answered (h : Prepared p fs isVerbose a threshold reader) {f : Failure}
    (hout : (heardOf fs reader a.file).outcome = .error f) (hanswered : f.isAnswered = true) :
    (load p fs isVerbose a).ending = .ok 1 ∧ (load p fs isVerbose a).output = [] ∧
      ownRecords (load p fs isVerbose a) =
        if threshold ≤ Level.error.rank then
          [complaint ("Failed to load " ++ a.file.text ++ ": " ++ f.message?.getD [])]
        else [] := by
  have hcomplaint : ∀ report, loadEnding a.file report (.error f) =
      ⟨[], [complaint ("Failed to load " ++ a.file.text ++ ": " ++ f.message?.getD [])], .ok 1⟩ := by
    intro report
    rw [Failure.isAnswered] at hanswered
    rw [loadEnding, if_pos hanswered]
  rw [ownRecords_of_prepared h, load_of_prepared h, hout, hcomplaint]
  refine ⟨rfl, rfl, ?_⟩
  rw [Record.passing]
  by_cases hlevel : threshold ≤ Level.error.rank
  · simp [hlevel, complaint]
  · simp [hlevel, complaint]

theorem load_of_unanswered (h : Prepared p fs isVerbose a threshold reader) {f : Failure}
    (hout : (heardOf fs reader a.file).outcome = .error f) (hanswered : f.isAnswered = false) :
    (load p fs isVerbose a).ending = .error f := by
  rw [Failure.isAnswered] at hanswered
  rw [load_of_prepared h, hout]
  simp [loadEnding, hanswered]

/-- The status tells what was heard of the document: it is 0 exactly if the document was loaded and no
error was entered on it, and else 1. If it was loaded, an account of it is written, whose verdict is that
of the status; if not, nothing is written, and the command complains of the failure. This is so on every
platform. -/
theorem status_tells_what_was_heard {status : Nat} (h : (load p fs isVerbose a).ending = .ok status) :
    ∃ threshold reader report, Prepared p fs isVerbose a threshold reader ∧
      (heardOf fs reader a.file).handler = .collecting (some a.file.text) report ∧
      (status = 0 ∨ status = 1) ∧
      (status = 0 ↔ (∃ d, (heardOf fs reader a.file).outcome = .ok d) ∧
        ∀ e ∈ report.entries, Report.isError e = false) ∧
      (∀ d, (heardOf fs reader a.file).outcome = .ok d →
        (load p fs isVerbose a).output = account a.file d status report.entries ∧
        ownRecords (load p fs isVerbose a) = []) ∧
      ∀ f, (heardOf fs reader a.file).outcome = .error f →
        f.isAnswered = true ∧ status = 1 ∧ (load p fs isVerbose a).output = [] ∧
        ownRecords (load p fs isVerbose a) =
          if threshold ≤ Level.error.rank then
            [complaint ("Failed to load " ++ a.file.text ++ ": " ++ f.message?.getD [])]
          else [] := by
  obtain ⟨threshold, reader, hprepared⟩ := exists_prepared h
  obtain ⟨told, hheard, -⟩ := heardOf_eq fs hprepared.behaves a.file
  let report := ((problems told).map (Handler.entry (some a.file.text))).foldl Report.add .empty
  have htallied : report.Tallied := Report.tallied_foldl_add _ Report.tallied_empty
  have hhandler : (heardOf fs reader a.file).handler = .collecting (some a.file.text) report := by
    rw [hheard]
  have hreport : reportOf fs reader a.file = report := by
    rw [reportOf, hhandler]
    rfl
  refine ⟨threshold, reader, report, hprepared, hhandler, ?_⟩
  cases hout : (heardOf fs reader a.file).outcome with
  | ok d =>
    obtain ⟨hending, houtput, hown⟩ := load_of_loaded hprepared hout
    rw [hreport] at hending houtput
    obtain rfl : (if report.isValid then 0 else 1) = status := Except.ok.inj (hending.symm.trans h)
    have hstatus : (if report.isValid then 0 else 1) = 0 ↔ report.isValid = true := by
      cases report.isValid <;> simp
    refine ⟨?_, ?_, ?_, nofun⟩
    · cases report.isValid <;> simp
    · rw [hstatus, htallied.valid]
      simp
    · rintro _ ⟨⟩
      exact ⟨houtput.trans (loadedText_eq a.file d told hstatus), hown⟩
  | error f =>
    cases hanswered : f.isAnswered with
    | false =>
      rw [load_of_unanswered hprepared hout hanswered] at h
      cases h
    | true =>
      obtain ⟨hending, houtput, hown⟩ := load_of_answered hprepared hout hanswered
      obtain rfl : 1 = status := Except.ok.inj (hending.symm.trans h)
      refine ⟨.inr rfl, by simp, nofun, ?_⟩
      rintro _ ⟨⟩
      exact ⟨hanswered, rfl, houtput, hown⟩

/-- A load of one file, with nothing else told. -/
def plainLoad : LoadArguments := ⟨Path.ofText "a", none, none, [], []⟩

theorem prepared_plainLoad : Prepared .builtIn DefinitionReader.oneElement false plainLoad Level.info.rank
    DefinitionReader.usual :=
  ⟨.usual, rfl, by rfl, DefinitionReader.ofSettings_usual⟩

theorem heardOf_plainLoad :
    let heard := heardOf DefinitionReader.oneElement DefinitionReader.usual plainLoad.file
    heard.outcome.toOption.isSome = true ∧
      (heard.handler.report?.map fun report => (report.isValid, report.entries.length)) =
        some (true, 1) := by
  decide +kernel

theorem ending_plainLoad : (load .builtIn DefinitionReader.oneElement false plainLoad).ending = .ok 0 := by
  obtain ⟨hloaded, hreport⟩ := heardOf_plainLoad
  rw [load_of_prepared prepared_plainLoad]
  cases hout : (heardOf DefinitionReader.oneElement DefinitionReader.usual plainLoad.file).outcome with
  | error f =>
    rw [hout] at hloaded
    cases hloaded
  | ok d =>
    obtain ⟨report, hsome, hvalid⟩ := Option.map_eq_some_iff.1 hreport
    rw [hsome, loadEnding, Option.getD_some, (Prod.mk.inj hvalid).1]
    rfl

/-- The file names no schema: the document is loaded, with a warning, and the status is 0. -/
theorem status_tells_what_was_heard_plainLoad :
    (load .builtIn DefinitionReader.oneElement false plainLoad).ending = .ok 0 ∧
      ∃ reader report d, (heardOf DefinitionReader.oneElement reader plainLoad.file).handler =
          .collecting (some plainLoad.file.text) report ∧
        (heardOf DefinitionReader.oneElement reader plainLoad.file).outcome = .ok d ∧
        (∀ e ∈ report.entries, Report.isError e = false) ∧
        (load .builtIn DefinitionReader.oneElement false plainLoad).output =
          account plainLoad.file d 0 report.entries := by
  obtain ⟨_, reader, report, -, hhandler, -, hzero, hloaded, -⟩ :=
    status_tells_what_was_heard ending_plainLoad
  obtain ⟨⟨d, hd⟩, hno⟩ := hzero.1 rfl
  exact ⟨ending_plainLoad, reader, report, d, hhandler, hd, hno, (hloaded d hd).1⟩

end SchemaGate.CommandLine
