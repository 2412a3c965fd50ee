import SkillHost.Log.Level

/-! Entries of the debug log and the lines that they make in its file. -/
namespace SkillHost

structure LogEntry where
  level : LogLevel
  module : Text
  message : Text
  deriving DecidableEq

/-- What the wall clock shows, in UTC. Days are counted from 1970, and milliseconds from the
beginning of the minute. -/
structure Clock where
  day : Int
  hour : Fin 24
  minute : Fin 60
  millisecond : Fin 60000

def Clock.epoch : Clock := ⟨0, ⟨0, by decide⟩, ⟨0, by decide⟩, ⟨0, by decide⟩⟩

def Clock.text (c : Clock) : Text :=
  if c.day < 0 then "??:??:??.???".toList
  else
    Text.padded 2 c.hour ++ ':' :: Text.padded 2 c.minute ++
      ':' :: Text.padded 2 (c.millisecond / 1000) ++ '.' :: Text.padded 3 (c.millisecond % 1000)

def LogEntry.line (time : Clock) (e : LogEntry) : Text :=
  '[' :: time.text ++ "] [".toList ++ e.level.tag ++ "] [".toList ++ e.module ++ "] ".toList ++
    e.message ++ ['\n']

namespace LogEntry

/-- Whether a text begins as `shape` says: `0` stands for any digit, every other character for
itself. -/
def fits : Text → Text → Bool
  | [], _ => true
  | _ :: _, [] => false
  | s :: shape, c :: t => (if s = '0' then c.isDigit else c = s) && fits shape t

def lineStart : Text := "[00:00:00.000] [".toList

def withoutTime (line : Text) : Text :=
  if fits lineStart line then "[TIME] [".toList ++ line.drop lineStart.length else line

def shownLines (t : Text) : List Text := (Text.lines t).map withoutTime

end LogEntry

end SkillHost
