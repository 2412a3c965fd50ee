import SkillHost.Json.Basic
import SkillHost.Text.Shown

/-! Calls of skill functions, their results, and the descriptions of functions. -/
namespace SkillHost

def qualifiedName (skill function : Text) : Text := skill ++ '.' :: function

structure FunctionCall where
  id : Text
  skill : Text
  function : Text
  input : Text
  deriving DecidableEq

structure FunctionResult where
  callId : Text
  content : Text
  isError : Bool
  deriving DecidableEq

structure FunctionInfo where
  skill : Text
  name : Text
  description : Text
  inputSchema : Json

def FunctionCall.qualifiedName (c : FunctionCall) : Text :=
  SkillHost.qualifiedName c.skill c.function

def FunctionInfo.qualifiedName (i : FunctionInfo) : Text := SkillHost.qualifiedName i.skill i.name

def FunctionCall.shown (c : FunctionCall) : Text :=
  Text.record "FunctionCall".toList
    [("id".toList, Text.quoted c.id), ("skill".toList, Text.quoted c.skill),
      ("function".toList, Text.quoted c.function), ("input".toList, Text.quoted c.input)]

def FunctionResult.shown (r : FunctionResult) : Text :=
  Text.record "FunctionResult".toList
    [("call_id".toList, Text.quoted r.callId), ("content".toList, Text.quoted r.content),
      ("is_error".toList, Text.shownBool r.isError)]

end SkillHost
