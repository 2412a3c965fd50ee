import SkillHost.Json.Record
import SkillHost.Skill.Call

/-! The JSON forms of calls, results and descriptions of functions. -/
namespace SkillHost

namespace FunctionCall

def toJson (c : FunctionCall) : Json :=
  .object [("id".toList, .string c.id), ("skill".toList, .string c.skill),
    ("function".toList, .string c.function), ("input".toList, .string c.input)]

def ofJson? (j : Json) : Option FunctionCall :=
  match j.fields? ["id".toList, "skill".toList, "function".toList, "input".toList] with
  | some [id, skill, function, input] => do
    return ⟨← Json.text? id, ← Json.text? skill, ← Json.text? function, ← Json.textOr? [] input⟩
  | _ => none

def ofText? (t : Text) : Option FunctionCall := (Json.parse? t).bind ofJson?

end FunctionCall

namespace FunctionResult

def toJson (r : FunctionResult) : Json :=
  .object ([("callId".toList, .string r.callId), ("content".toList, .string r.content)] ++
    if r.isError then [("isError".toList, .bool true)] else [])

def ofJson? (j : Json) : Option FunctionResult :=
  match j.fields? ["callId".toList, "content".toList, "isError".toList] with
  | some [callId, content, isError] => do
    return ⟨← Json.text? callId, ← Json.text? content, ← Json.boolOr? false isError⟩
  | _ => none

def ofText? (t : Text) : Option FunctionResult := (Json.parse? t).bind ofJson?

end FunctionResult

namespace FunctionInfo

def toJson (i : FunctionInfo) : Json :=
  .object [("skill".toList, .string i.skill), ("name".toList, .string i.name),
    ("description".toList, .string i.description), ("input_schema".toList, i.inputSchema)]

def ofJson? (j : Json) : Option FunctionInfo :=
  match j.fields?
    ["skill".toList, "name".toList, "description".toList, "input_schema".toList] with
  | some [skill, name, description, inputSchema] => do
    return ⟨← Json.text? skill, ← Json.text? name, ← Json.text? description,
      ← Json.any? inputSchema⟩
  | _ => none

def ofText? (t : Text) : Option FunctionInfo := (Json.parse? t).bind ofJson?

end FunctionInfo

end SkillHost
