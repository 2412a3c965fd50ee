import SkillHost.Json.Basic
import SkillHost.Json.Token

/-! Values from JSON text. The arrays and objects that are still open form a stack, so that the
reader goes once through the tokens. -/
namespace SkillHost.Json

inductive Frame where
  | array (items : List Json)
  | object (members : List (Option Text × Json)) (name : Option Text)

inductive ParseState where
  | value (stack : List Frame)
  /-- A value, or the end of an array with no items. -/
  | item (items : List Json) (stack : List Frame)
  | name (members : List (Option Text × Json)) (stack : List Frame)
  /-- A name, or the end of an object with no members. -/
  | member (members : List (Option Text × Json)) (stack : List Frame)
  | colon (members : List (Option Text × Json)) (name : Option Text) (stack : List Frame)
  | separator (frame : Frame) (stack : List Frame)
  | done (value : Json)

def ofMembers (members : List (Option Text × Json)) : Json :=
  match members.mapM fun m => m.1.map fun name => (name, m.2) with
  | some members => .object members
  | none => .undefined

def ParseState.after (value : Json) : List Frame → ParseState
  | [] => .done value
  | .array items :: stack => .separator (.array (value :: items)) stack
  | .object members key :: stack => .separator (.object ((key, value) :: members) none) stack

def ParseState.start? (stack : List Frame) : Token → Option ParseState
  | .null => some (.after .null stack)
  | .bool b => some (.after (.bool b) stack)
  | .number n => some (.after (n.elim .undefined .number) stack)
  | .string t => some (.after (t.elim .undefined .string) stack)
  | .openArray => some (.item [] stack)
  | .openObject => some (.member [] stack)
  | _ => none

def ParseState.step? : ParseState → Token → Option ParseState
  | .value stack, token => start? stack token
  | .item items stack, .closeArray => some (.after (.array items.reverse) stack)
  | .item items stack, token => start? (.array items :: stack) token
  | .name members stack, .string key => some (.colon members key stack)
  | .name _ _, _ => none
  | .member members stack, .closeObject => some (.after (ofMembers members.reverse) stack)
  | .member members stack, .string key => some (.colon members key stack)
  | .member _ _, _ => none
  | .colon members key stack, .colon => some (.value (.object members key :: stack))
  | .colon _ _ _, _ => none
  | .separator (.array items) stack, .comma => some (.value (.array items :: stack))
  | .separator (.array items) stack, .closeArray => some (.after (.array items.reverse) stack)
  | .separator (.object members _) stack, .comma => some (.name members stack)
  | .separator (.object members _) stack, .closeObject =>
    some (.after (ofMembers members.reverse) stack)
  | .separator _ _, _ => none
  | .done _, _ => none

def parseFrom (state : ParseState) : List Token → Option Json
  | [] => match state with
    | .done value => some value
    | _ => none
  | token :: rest => match state.step? token with
    | some next => parseFrom next rest
    | none => none

def parse? (t : Text) : Option Json := (tokens? t).bind (parseFrom (.value []))

end SkillHost.Json
