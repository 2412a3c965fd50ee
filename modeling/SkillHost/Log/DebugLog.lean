import SkillHost.System

/-! The debug log. It is configured once, at the first entry, from the environment as it is then:
whether it is on, from which level, and in which file. -/
namespace SkillHost

inductive DebugLog where
  | unconfigured
  /-- Entries below `minimum` are dropped, and all of them where no file is open. -/
  | configured (minimum : LogLevel) (file : Option Place)

namespace DebugLog

def isOn (env : Environment) : Bool :=
  match env.lookup "SEMKIT_DEBUG".toList with
  | some value => value = ['1'] || value.map Char.toLower = ['t', 'r', 'u', 'e']
  | none => false

def minimumIn (env : Environment) : LogLevel :=
  ((env.lookup "SEMKIT_LOG_LEVEL".toList).bind LogLevel.ofName?).getD .debug

/-- The log as it is configured now, and the files after its own is opened. A new file is made
if there is none; a log that is off, or whose file cannot be opened, has none. -/
def configure (s : System) : DebugLog × Files :=
  let minimum := minimumIn s.environment
  match if isOn s.environment then s.files.target? s.directory s.logPath else none with
  | some place =>
    (.configured minimum (some place),
      if (s.files.entry? place).isSome then s.files else s.files.put place (.text []))
  | none => (.configured minimum none, s.files)

theorem configure_log (s : System) :
    ∃ file, (configure s).1 = .configured (minimumIn s.environment) file := by
  simp only [configure]
  split <;> exact ⟨_, rfl⟩

def lines (minimum : LogLevel) (time : Clock) (entries : List LogEntry) : Text :=
  (entries.filter fun e => minimum.rank ≤ e.level.rank).flatMap (LogEntry.line time)

theorem lines_append (minimum : LogLevel) (time : Clock) (entries more : List LogEntry) :
    lines minimum time (entries ++ more) = lines minimum time entries ++ lines minimum time more := by
  simp [lines]

end DebugLog

end SkillHost
