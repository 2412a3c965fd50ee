import SkillHost.Duration
import SkillHost.Json.Basic
import SkillHost.Log.Entry
import SkillHost.Skill.Error

/-! Skill functions: named functions of one text, which may pause before they answer. -/
namespace SkillHost

/-- What a function does with an argument: it may write to the debug log, then it may pause, then
it answers. Nothing for an answer means that it gives no value. -/
structure Activity where
  entries : List LogEntry
  pause : Option Duration
  answer : Except SkillError (Option Text)

structure SkillFunction where
  name : Text
  description : Text
  inputSchema : Json
  run : Text → Activity

namespace SkillFunction

def textSchema (member : Text) (about : List (Text × Json)) : Json :=
  .object [
    ("type".toList, .string "object".toList),
    ("properties".toList, .object [
      (member, .object (("type".toList, .string "string".toList) :: about))]),
    ("required".toList, .array [.string member])]

def defaultSchema : Json := textSchema "input".toList []

end SkillFunction

end SkillHost
