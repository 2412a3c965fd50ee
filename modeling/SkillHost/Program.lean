import SkillHost.Log.DebugLog

/-! A running program: the system that it sees, its debug log and the time. A run is a list of
steps; all that the library does to a program is to write log entries. -/
namespace SkillHost

structure Program where
  system : System
  log : DebugLog
  time : Clock

namespace Program

def withEnvironment (p : Program) (env : Environment) : Program :=
  { p with system := { p.system with environment := env } }

def withFiles (p : Program) (files : Files) : Program :=
  { p with system := { p.system with files := files } }

def configureLog (p : Program) : Program :=
  match p.log with
  | .configured _ _ => p
  | .unconfigured =>
    { p.withFiles (DebugLog.configure p.system).2 with log := (DebugLog.configure p.system).1 }

def appendToLog (p : Program) (entries : List LogEntry) : Program :=
  match p.log with
  | .configured minimum (some place) =>
    p.withFiles (p.system.files.appendAt place (DebugLog.lines minimum p.time entries))
  | _ => p

/-- Writes entries, in order. The first one of all configures the log, even if its level is too
low. -/
def write (p : Program) (entries : List LogEntry) : Program :=
  if entries.isEmpty then p else p.configureLog.appendToLog entries

@[simp] theorem write_nil (p : Program) : p.write [] = p := rfl

theorem configureLog_of_configured {p : Program} {minimum : LogLevel} {file : Option Place}
    (h : p.log = .configured minimum file) : p.configureLog = p := by
  simp [configureLog, h]

theorem configureLog_log (p : Program) :
    ∃ minimum file, p.configureLog.log = .configured minimum file := by
  unfold configureLog
  split
  · exact ⟨_, _, by assumption⟩
  · exact ⟨_, DebugLog.configure_log p.system⟩

theorem appendToLog_log (p : Program) (entries : List LogEntry) :
    (p.appendToLog entries).log = p.log := by
  unfold appendToLog
  split <;> rfl

theorem appendToLog_appendToLog (p : Program) (entries more : List LogEntry) :
    (p.appendToLog entries).appendToLog more = p.appendToLog (entries ++ more) := by
  obtain ⟨system, log, time⟩ := p
  rcases log with _ | ⟨minimum, _ | place⟩
  · rfl
  · rfl
  · simp [appendToLog, withFiles, Files.appendAt_appendAt, DebugLog.lines_append]

theorem write_append (p : Program) (entries more : List LogEntry) :
    p.write (entries ++ more) = (p.write entries).write more := by
  cases entries with
  | nil => rfl
  | cons e entries =>
    cases more with
    | nil => simp
    | cons e' more =>
      obtain ⟨minimum, file, h⟩ := p.configureLog_log
      have h' : (p.configureLog.appendToLog (e :: entries)).configureLog =
          p.configureLog.appendToLog (e :: entries) :=
        configureLog_of_configured ((appendToLog_log _ _).trans h)
      simp only [write, List.cons_append, List.isEmpty_cons, Bool.false_eq_true, ↓reduceIte, h',
        appendToLog_appendToLog]

theorem write_environment (p : Program) (entries : List LogEntry) :
    (p.write entries).system.environment = p.system.environment := by
  unfold write configureLog appendToLog withFiles
  split
  · rfl
  · split <;> split <;> rfl

/-- Removes a file. A log whose file it was keeps writing to a file that nobody can find. -/
def removeFile (p : Program) (path : Path) : Program :=
  match p.system.files.fileAt? p.system.directory path with
  | none => p
  | some place =>
    let p := p.withFiles (p.system.files.remove place)
    match p.log with
    | .configured minimum (some file) =>
      if file = place then { p with log := .configured minimum none } else p
    | _ => p

end Program

inductive Step where
  | setVariable (name : Text) (value : Content)
  | unsetVariable (name : Text)
  | writeFile (path : Path) (content : Content)
  | removeFile (path : Path)
  | makeDirectory (path : Path)
  | setClock (time : Clock)
  /-- An operation, by the log entries that it makes in the program as it is. -/
  | report (entries : Program → List LogEntry)

namespace Program

def step (p : Program) : Step → Program
  | .setVariable name value => p.withEnvironment (p.system.environment.set name value)
  | .unsetVariable name => p.withEnvironment (p.system.environment.unset name)
  | .writeFile path content =>
    p.withFiles (p.system.files.write p.system.directory path content)
  | .removeFile path => p.removeFile path
  | .makeDirectory path => p.withFiles (p.system.files.makeDirectory p.system.directory path)
  | .setClock time => { p with time := time }
  | .report entries => p.write (entries p)

def run (p : Program) (steps : List Step) : Program := steps.foldl step p

def contentAt? (p : Program) (path : Path) : Option Content :=
  match (p.system.files.fileAt? p.system.directory path).bind p.system.files.entry? with
  | some (.file content) => some content
  | _ => none

end Program

end SkillHost
