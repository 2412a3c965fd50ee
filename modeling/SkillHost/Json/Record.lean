import SkillHost.Json.Parser

/-! Records in JSON. A record is an object with the declared members, or an array of their values
in the declared order. -/
namespace SkillHost.Json

/-- The value of each declared member, if it is there. Members that are not declared are passed
over, and a declared one must not occur twice. An array may end early. -/
def fields? (names : List Text) : Json → Option (List (Option Json))
  | object members =>
    if names.all fun name => (members.filter fun m => m.1 = name).length ≤ 1 then
      some (names.map fun name => (members.find? fun m => m.1 = name).map Prod.snd)
    else none
  | array items =>
    if items.length ≤ names.length then
      some (items.map some ++ List.replicate (names.length - items.length) none)
    else none
  | _ => none

def text? : Option Json → Option Text
  | some (string t) => some t
  | _ => none

def textOr? (absent : Text) : Option Json → Option Text
  | none => some absent
  | some (string t) => some t
  | _ => none

def optionalText? : Option Json → Option (Option Text)
  | none | some null => some none
  | some (string t) => some (some t)
  | _ => none

def boolOr? (absent : Bool) : Option Json → Option Bool
  | none => some absent
  | some (bool b) => some b
  | _ => none

def maxDepth : Nat := 127

def any? : Option Json → Option Json
  | some value => if value.depth < maxDepth then value.settle? else none
  | none => none

end SkillHost.Json
