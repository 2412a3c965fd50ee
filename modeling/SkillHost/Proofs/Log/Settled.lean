import SkillHost.Proofs.Log.Apart
import SkillHost.Proofs.Log.Lines
import SkillHost.Settings.Resolver
import SkillHost.Skill.Wait

/-! The debug log over a whole run. The first log call settles where the log goes and from which
level on; from then on every call of that level or above puts one line at the end of the file, and
nothing else comes of a call. A step of a run is any number of calls, or a change of the world. -/
namespace SkillHost

theorem Content.append_nil (content : Content) : content.append [] = content := by
  cases content <;> simp [Content.append, Text.toBytes]

namespace DebugLog

def levelNames : List (Text × LogLevel) :=
  [("trace".toList, .trace), ("debug".toList, .debug), ("info".toList, .info),
    ("warn".toList, .warn), ("warning".toList, .warn), ("error".toList, .error)]

/-- The least level that the environment asks for. No name, or another one, asks for `debug`. -/
def levelIn (env : Environment) : LogLevel :=
  match env.lookup "SEMKIT_LOG_LEVEL".toList with
  | some value => (levelNames.lookup (Text.lowercase (Text.trim value))).getD .debug
  | none => .debug

/-- The file that the environment asks for with `1` or, in any case, `true`, if it can be opened. -/
def fileIn? (s : System) : Option Place :=
  let temporary := (s.environment.path? "TMPDIR".toList).getD (.ofText "/tmp".toList)
  match s.environment.lookup "SEMKIT_DEBUG".toList with
  | some value =>
    if value = ['1'] ∨ value.map Char.toLower = "true".toList then
      s.files.target? s.directory (temporary.join (.ofText "semkit-debug.log".toList))
    else none
  | none => none

theorem lookup_cons_eq (word name : Text) (level : LogLevel) (rest : List (Text × LogLevel)) :
    List.lookup word ((name, level) :: rest) =
      if word = name then some level else rest.lookup word := by
  rw [List.lookup_cons]
  by_cases same : word = name
  · rw [if_pos same, beq_iff_eq.mpr same]
  · rw [if_neg same, beq_eq_false_iff_ne.mpr same]

theorem lookup_levelNames (value : Text) :
    levelNames.lookup (Text.lowercase (Text.trim value)) = LogLevel.ofName? value := by
  simp only [levelNames, lookup_cons_eq, List.lookup_nil, LogLevel.ofName?]
  generalize Text.lowercase (Text.trim value) = word
  by_cases warn : word = "warn".toList
  · simp only [warn, true_or, if_true]
  · simp only [warn, false_or, if_false]

theorem minimumIn_eq (env : Environment) : minimumIn env = levelIn env := by
  rw [minimumIn, levelIn]
  cases env.lookup "SEMKIT_LOG_LEVEL".toList with
  | none => rfl
  | some value => rw [Option.bind_some, ← lookup_levelNames]

theorem isOn_eq (env : Environment) : isOn env = match env.lookup "SEMKIT_DEBUG".toList with
    | some value => decide (value = ['1'] ∨ value.map Char.toLower = "true".toList)
    | none => false := by
  rw [isOn]
  cases env.lookup "SEMKIT_DEBUG".toList with
  | none => rfl
  | some value => exact (Bool.decide_or ..).symm

theorem fileIn?_eq (s : System) : fileIn? s =
    if isOn s.environment then s.files.target? s.directory s.logPath else none := by
  rw [fileIn?, isOn_eq]
  cases s.environment.lookup "SEMKIT_DEBUG".toList with
  | none => rfl
  | some value =>
    simp only [decide_eq_true_eq]
    rfl

theorem lines_nil (minimum : LogLevel) (time : Clock) : lines minimum time [] = [] := rfl

theorem configure_eq (s : System) :
    configure s = match fileIn? s with
      | some place => (.configured (levelIn s.environment) (some place),
        if (s.files.entry? place).isSome then s.files else s.files.put place (.text []))
      | none => (.configured (levelIn s.environment) none, s.files) := by
  rw [fileIn?_eq, ← minimumIn_eq]
  rfl

theorem configure_fst (s : System) :
    (configure s).1 = .configured (levelIn s.environment) (fileIn? s) := by
  rw [configure_eq]
  cases fileIn? s <;> rfl

end DebugLog

namespace Files

/-- What a file holds; a file that is not there yet holds nothing. -/
def held (files : Files) (place : Place) : Content :=
  match files.entry? place with
  | some (.file content) => content
  | _ => .text []

theorem of_target? {files : Files} {directory : Place} {path : Path} {place : Place}
    (h : files.target? directory path = some place) :
    place ≠ [] ∧ files.isDirectory place = false := by
  unfold target? at h
  split at h
  · split at h
    · cases h
    · split at h
      · split at h
        · rename_i free
          rw [Bool.and_eq_true, Bool.not_eq_true'] at free
          rw [← Option.some.inj h]
          exact ⟨by simp, free.2⟩
        · cases h
      · cases h
  · cases h

end Files

def Step.calls (p : Program) : Step → List (Clock × LogEntry)
  | .report entries => (entries p).map fun e => (p.time, e)
  | _ => []

def Step.removes (place : Place) (p : Program) : Step → Bool
  | .removeFile path => p.system.files.fileAt? p.system.directory path = some place
  | _ => false

/-- Whether what a step does to a place comes from log calls at most. -/
def Step.Spares (place : Place) (p : Program) : Step → Prop
  | .report _ => True
  | step => Files.entry? (p.step step).system.files place = p.system.files.entry? place

namespace Program

def calls (p : Program) : List Step → List (Clock × LogEntry)
  | [] => []
  | step :: rest => step.calls p ++ (p.step step).calls rest

def removed (place : Place) (p : Program) : List Step → Bool
  | [] => false
  | step :: rest => step.removes place p || (p.step step).removed place rest

def Spared (place : Place) (p : Program) : List Step → Prop
  | [] => True
  | step :: rest => step.Spares place p ∧ (p.step step).Spared place rest

theorem run_cons (p : Program) (step : Step) (rest : List Step) :
    p.run (step :: rest) = (p.step step).run rest := rfl

theorem run_append (p : Program) (steps more : List Step) :
    p.run (steps ++ more) = (p.run steps).run more :=
  List.foldl_append

theorem log_removeFile {p : Program} {minimum : LogLevel} {file : Option Place}
    (h : p.log = .configured minimum file) (path : Path) :
    (p.removeFile path).log =
      .configured minimum (file.filter fun place => !(Step.removeFile path).removes place p) := by
  cases found : p.system.files.fileAt? p.system.directory path with
  | none =>
    have kept : file.filter (fun _ => true) = file := by cases file <;> rfl
    simp [removeFile, found, Step.removes, kept, h]
  | some place =>
    cases file with
    | none => simp [removeFile, found, withFiles, h]
    | some file =>
      by_cases same : place = file
      · simp [removeFile, found, withFiles, h, Step.removes, Option.filter, same]
      · simp [removeFile, found, withFiles, h, Step.removes, Option.filter, same, Ne.symm same]

theorem log_write {p : Program} {minimum : LogLevel} {file : Option Place}
    (h : p.log = .configured minimum file) (entries : List LogEntry) :
    (p.write entries).log = .configured minimum file := by
  rw [write]
  split
  · exact h
  · rw [appendToLog_log, configureLog_of_configured h, h]

theorem log_step {p : Program} {minimum : LogLevel} {file : Option Place}
    (h : p.log = .configured minimum file) (step : Step) :
    (p.step step).log =
      .configured minimum (file.filter fun place => !step.removes place p) := by
  have kept : file.filter (fun _ => true) = file := by
    cases file <;> rfl
  cases step with
  | removeFile path => exact log_removeFile h path
  | report entries => exact (log_write h (entries p)).trans (congrArg _ kept.symm)
  | _ => exact h.trans (congrArg _ kept.symm)

theorem log_run {p : Program} {minimum : LogLevel} {file : Option Place}
    (h : p.log = .configured minimum file) (steps : List Step) :
    (p.run steps).log =
      .configured minimum (file.filter fun place => !p.removed place steps) := by
  induction steps generalizing p file with
  | nil => cases file <;> exact h
  | cons step rest ih =>
    rw [run_cons, ih (log_step h step), Option.filter_filter]
    congr 2
    funext place
    rw [removed, Bool.not_or, Bool.and_comm]

theorem write_of_closed {p : Program} {minimum : LogLevel}
    (h : p.log = .configured minimum none) (entries : List LogEntry) :
    p.write entries = p := by
  obtain same | ⟨place, more, opened, -⟩ := write_of_configured h entries
  · exact same
  · cases opened

structure Holds (minimum : LogLevel) (place : Place) (content : Content) (p : Program) : Prop where
  opened : p.log = .configured minimum (some place)
  entry : p.system.files.entry? place = some (.file content)

theorem Holds.removes_eq_false {minimum : LogLevel} {place : Place} {content : Content}
    {p : Program} (h : Holds minimum place content p) {step : Step}
    (spares : step.Spares place p) : step.removes place p = false := by
  cases step with
  | removeFile path =>
    rw [Step.removes, decide_eq_false_iff_not]
    intro gone
    have still : Files.entry? (p.removeFile path).system.files place = some (.file content) :=
      spares.trans h.entry
    have named : place ≠ [] := by
      intro root
      have entry := h.entry
      rw [root] at entry
      cases entry
    have erased : (p.removeFile path).system.files = p.system.files.remove place := by
      simp [removeFile, gone, withFiles, h.opened]
    rw [erased, Files.entry_of_ne_nil _ named, Files.remove, Table.get?_erase,
      if_pos rfl] at still
    cases still
  | _ => rfl

theorem Holds.write {minimum : LogLevel} {place : Place} {content : Content} {p : Program}
    (h : Holds minimum place content p) (entries : List LogEntry) :
    Holds minimum place (content.append (DebugLog.lines minimum p.time entries))
      (p.write entries) := by
  cases entries with
  | nil =>
    rw [write_nil, DebugLog.lines_nil, Content.append_nil]
    exact h
  | cons first rest =>
    rw [Program.write, configureLog_of_configured h.opened]
    refine ⟨(appendToLog_log p _).trans h.opened, ?_⟩
    simp only [List.isEmpty_cons, Bool.false_eq_true, if_false, appendToLog, h.opened]
    exact Files.entry_appendAt _ h.entry _

theorem Holds.step {minimum : LogLevel} {place : Place} {content : Content} {p : Program}
    (h : Holds minimum place content p) {step : Step} (spares : step.Spares place p) :
    Holds minimum place (content.append (DebugLog.linesOf minimum (step.calls p)))
      (p.step step) := by
  have opened := log_step h.opened step
  rw [Option.filter_some, h.removes_eq_false spares] at opened
  cases step with
  | report entries =>
    rw [Step.calls, DebugLog.linesOf_map]
    exact h.write (entries p)
  | _ =>
    refine ⟨opened, spares.trans (h.entry.trans ?_)⟩
    exact congrArg (fun c => some (FileEntry.file c)) (Content.append_nil content).symm

theorem Holds.run {minimum : LogLevel} {place : Place} {content : Content} {p : Program}
    (h : Holds minimum place content p) {steps : List Step} (spared : p.Spared place steps) :
    Holds minimum place (content.append (DebugLog.linesOf minimum (p.calls steps)))
      (p.run steps) := by
  induction steps generalizing p content with
  | nil =>
    rw [calls, DebugLog.linesOf_nil, Content.append_nil]
    exact h
  | cons step rest ih =>
    have next := ih (h.step spared.1) spared.2
    rw [Content.append_append, ← DebugLog.linesOf_append] at next
    exact next

section
variable {p : Program} (fresh : p.log = .unconfigured)
include fresh

theorem configureLog_of_fresh :
    p.configureLog = ⟨{ p.system with files := (DebugLog.configure p.system).2 },
      .configured (DebugLog.levelIn p.system.environment) (DebugLog.fileIn? p.system),
      p.time⟩ := by
  rw [configureLog, fresh, ← DebugLog.configure_fst]
  rfl

theorem write_of_fresh {entries : List LogEntry} (some : entries ≠ []) :
    p.write entries = p.configureLog.write entries := by
  have configured : p.configureLog.log = _ := congrArg Program.log (configureLog_of_fresh fresh)
  have nonempty : entries.isEmpty = false := by simpa using some
  rw [write, write, nonempty, configureLog_of_configured configured]
  rfl

theorem holds_configureLog {place : Place} (found : DebugLog.fileIn? p.system = some place) :
    Holds (DebugLog.levelIn p.system.environment) place (p.system.files.held place)
      p.configureLog := by
  have free : place ≠ [] ∧ p.system.files.isDirectory place = false := by
    rw [DebugLog.fileIn?_eq] at found
    split at found
    · exact Files.of_target? found
    · cases found
  rw [configureLog_of_fresh fresh, DebugLog.configure_eq]
  refine ⟨by rw [found], ?_⟩
  simp only [found]
  cases entry : p.system.files.entry? place with
  | none =>
    simp only [Option.isSome_none, Bool.false_eq_true, if_false, Files.held, entry]
    exact Files.entry_put _ free.1 _
  | some e =>
    cases e with
    | file content => simp [Files.held, entry]
    | directory => simp [Files.isDirectory, entry] at free

theorem configureLog_files (none : DebugLog.fileIn? p.system = none) :
    p.configureLog.system.files = p.system.files := by
  rw [configureLog_of_fresh fresh, DebugLog.configure_eq]
  simp only [none]

theorem log_of_quiet {steps : List Step} (quiet : p.calls steps = []) :
    (p.run steps).log = .unconfigured := by
  induction steps generalizing p with
  | nil => exact fresh
  | cons step rest ih =>
    rw [calls, List.append_eq_nil_iff] at quiet
    refine ih ?_ quiet.2
    cases step with
    | report entries =>
      have none := List.map_eq_nil_iff.mp quiet.1
      rw [Program.step, none, write_nil]
      exact fresh
    | removeFile path =>
      rw [Program.step, removeFile]
      split
      · exact fresh
      · simp [withFiles, fresh]
    | _ => exact fresh

end

/-- The debug log is on: what is at least of the level `minimum` goes to the file at `place`, which
is open or will be with the first entry. -/
inductive LogsTo (p : Program) (minimum : LogLevel) (place : Place) : Prop where
  | opened {content : Content} (h : Holds minimum place content p)
  | fresh (unset : p.log = .unconfigured) (found : DebugLog.fileIn? p.system = some place)
    (level : DebugLog.levelIn p.system.environment = minimum)

theorem Holds.held {minimum : LogLevel} {place : Place} {content : Content} {p : Program}
    (h : Holds minimum place content p) : p.system.files.held place = content := by
  simp only [Files.held, h.entry]

theorem LogsTo.held_write {minimum : LogLevel} {place : Place} {p : Program}
    (h : p.LogsTo minimum place) (entries : List LogEntry) :
    ∃ lines, DebugLog.Written minimum (entries.map fun e => (p.time, e)) lines ∧
      (p.write entries).system.files.held place = (p.system.files.held place).append lines := by
  refine ⟨_, DebugLog.written_linesOf .., ?_⟩
  rw [DebugLog.linesOf_map]
  cases h with
  | opened holds => rw [(holds.write entries).held, holds.held]
  | fresh unset found level =>
    cases entries with
    | nil => rw [write_nil, DebugLog.lines_nil, Content.append_nil]
    | cons first rest =>
      have holds := (holds_configureLog unset found).write (first :: rest)
      have time : p.configureLog.time = p.time := by rw [configureLog_of_fresh unset]
      rw [← write_of_fresh unset (List.cons_ne_nil _ _), time, level] at holds
      exact holds.held

theorem exists_first_call {p : Program} {steps : List Step} (h : p.calls steps ≠ []) :
    ∃ quiet entries later, steps = quiet ++ .report entries :: later ∧
      p.calls quiet = [] ∧ entries (p.run quiet) ≠ [] := by
  induction steps generalizing p with
  | nil => exact absurd rfl h
  | cons step rest ih =>
    by_cases none : step.calls p = []
    · rw [calls, none, List.nil_append] at h
      obtain ⟨quiet, entries, later, parts, silent, some⟩ := ih h
      refine ⟨step :: quiet, entries, later, by rw [parts, List.cons_append], ?_, some⟩
      rw [calls, none, silent, List.append_nil]
    · cases step with
      | report entries =>
        have some : entries p ≠ [] := fun empty => none (by rw [Step.calls, empty, List.map_nil])
        exact ⟨[], entries, rest, rfl, rfl, some⟩
      | _ => exact absurd rfl none

/-- What becomes of the log in a run that begins with the first log call of all. -/
structure Settled (p : Program) (steps : List Step) : Prop where
  /-- The environment at the first call says from which level on and in which file the log is kept,
  and that stays so. A file that is removed is not replaced by another. -/
  log : (p.run steps).log = .configured (DebugLog.levelIn p.system.environment)
    ((DebugLog.fileIn? p.system).filter fun place => !p.removed place steps)
  /-- A file that nothing else touches holds a line for each call of sufficient level, in order,
  after what it held before. -/
  written : ∀ place, DebugLog.fileIn? p.system = some place → p.Spared place steps →
    ∃ lines, DebugLog.Written (DebugLog.levelIn p.system.environment) (p.calls steps) lines ∧
      Files.entry? (p.run steps).system.files place =
        some (.file ((p.system.files.held place).append lines))
  unwritten : DebugLog.fileIn? p.system = none → ∀ before entries after,
    steps = before ++ .report entries :: after →
      (p.run (before ++ [.report entries])).system.files = (p.run before).system.files

theorem settled_of_first {p : Program} (fresh : p.log = .unconfigured)
    {entries : Program → List LogEntry} (some : entries p ≠ []) (later : List Step) :
    Settled p (.report entries :: later) := by
  have first : p.step (.report entries) = p.configureLog.write (entries p) :=
    write_of_fresh fresh some
  have log : p.configureLog.log = .configured (DebugLog.levelIn p.system.environment)
      (DebugLog.fileIn? p.system) := congrArg Program.log (configureLog_of_fresh fresh)
  have log₁ := log_write log (entries p)
  rw [← first] at log₁
  refine ⟨?_, fun place found spared => ?_, fun none before f after parts => ?_⟩
  · rw [run_cons, log_run log₁]
    rfl
  · have time : p.configureLog.time = p.time := by rw [configureLog_of_fresh fresh]
    have holds := (holds_configureLog fresh found).write (entries p)
    rw [← first, time, ← DebugLog.linesOf_map] at holds
    have after := (holds.run spared.2).entry
    rw [Content.append_append, ← DebugLog.linesOf_append] at after
    exact ⟨_, DebugLog.written_linesOf .., after⟩
  · rw [run_append]
    -- The first call looks for the file and finds none; a later one does not look again.
    cases before with
    | nil =>
      obtain ⟨rfl, -⟩ : entries = f ∧ later = after := by simpa using parts
      change (p.step (.report entries)).system.files = p.system.files
      rw [none] at log
      rw [first, write_of_closed log, configureLog_files fresh none]
    | cons step before =>
      obtain ⟨rfl, -⟩ : .report entries = step ∧ later = before ++ .report f :: after := by
        simpa using parts
      rw [none] at log₁
      have closed : ((p.step (.report entries)).run before).log = _ := log_run log₁ before
      exact congrArg (fun q => q.system.files) (write_of_closed closed _)

/-- A fresh program's log is settled by the first log call, if there is any. -/
theorem settled_of_fresh {p : Program} (fresh : p.log = .unconfigured) (steps : List Step) :
    p.calls steps = [] ∧ (p.run steps).log = .unconfigured ∨
    ∃ quiet entries later, steps = quiet ++ .report entries :: later ∧
      p.calls quiet = [] ∧ (p.run quiet).log = .unconfigured ∧ entries (p.run quiet) ≠ [] ∧
        Settled (p.run quiet) (.report entries :: later) := by
  by_cases none : p.calls steps = []
  · exact .inl ⟨none, log_of_quiet fresh none⟩
  obtain ⟨quiet, entries, later, parts, silent, some⟩ := exists_first_call none
  have unset := log_of_quiet fresh silent
  exact .inr ⟨quiet, entries, later, parts, silent, unset, some, settled_of_first unset some later⟩

def sampleProcess : Program where
  system :=
    { environment := ((Environment.empty.set "SEMKIT_DEBUG".toList (.text "True".toList)).set
        "SEMKIT_LOG_LEVEL".toList (.text "info".toList)).set "TMPDIR".toList (.text "/t".toList)
      files := Files.put ⟨Table.empty.insert [Text.toBytes ['t']] .directory⟩
        [Text.toBytes ['t'], Text.toBytes "semkit-debug.log".toList] (.text "before\n".toList)
      directory := [] }
  log := .unconfigured
  time := ⟨20000, 9, 5, 250⟩

/-- The level is raised before the first call; what is changed after it counts for nothing. -/
def sampleSteps : List Step :=
  [.setVariable "SEMKIT_LOG_LEVEL".toList (.text " Warning".toList),
    .report fun p => (Resolver.environment.resolveOpenAi p).entries,
    .setVariable "SEMKIT_LOG_LEVEL".toList (.text "trace".toList),
    .setVariable "TMPDIR".toList (.text "/elsewhere".toList),
    .unsetVariable "SEMKIT_DEBUG".toList,
    .setClock ⟨20000, 9, 5, 1000⟩,
    .report fun _ => (Wait.run "-1".toList).entries,
    .report fun _ => [⟨.error, "host".toList, "one\ntwo".toList⟩]]

/-- The file then holds two lines more, for the warning and for the error. -/
theorem settled_sampleProcess :
    sampleProcess.log = .unconfigured ∧
      (sampleProcess.calls sampleSteps = [] ∧ (sampleProcess.run sampleSteps).log = .unconfigured ∨
        ∃ quiet entries later, sampleSteps = quiet ++ .report entries :: later ∧
          sampleProcess.calls quiet = [] ∧ (sampleProcess.run quiet).log = .unconfigured ∧
            entries (sampleProcess.run quiet) ≠ [] ∧
              Settled (sampleProcess.run quiet) (.report entries :: later)) ∧
      ((sampleProcess.run sampleSteps).contentAt? (.ofText "/t/semkit-debug.log".toList)).bind
        Content.text? = some ("before\n".toList ++
          "[09:05:00.250] [WARN ] [semkit_core::resolver::settings_resolver] ".toList ++
            "OPENAI_API_KEY missing from process environment\n".toList ++
          "[09:05:01.000] [ERROR] [host] one\ntwo\n".toList) :=
  ⟨rfl, settled_of_fresh rfl sampleSteps, by decide +kernel⟩

example : (sampleProcess.calls sampleSteps).map (fun c => c.2.level) = [.warn, .debug, .error] := by
  rfl

example : DebugLog.fileIn? (sampleProcess.run (sampleSteps.take 1)).system =
    some [Text.toBytes ['t'], Text.toBytes "semkit-debug.log".toList] := by
  rfl

end Program

end SkillHost
