import SkillHost.Dotenv.Key
import SkillHost.Dotenv.Statement
import SkillHost.Dotenv.Value

/-! What a statement says: nothing, an assignment of a value to a key, or nothing that can be
read. -/
namespace SkillHost.Dotenv

def afterEquals? (t : Text) : Option Text :=
  match Text.trimStart t with
  | '=' :: rest => some rest
  | _ => none

def readHead? (t : Text) : Option (Text × Text) :=
  (readKey? t).bind fun (key, rest) =>
    match afterEquals? rest with
    | some value => some (key, value)
    | none =>
      if key = exportWord then
        (readKey? (Text.trimStart rest)).bind fun (key, rest) =>
          (afterEquals? rest).map fun value => (key, value)
      else none

inductive Reading where
  | nothing
  | assigned (key value : Text)
  /-- `text` is the part that was refused: the value where only the value is malformed, else the
  statement. -/
  | rejected (text : Text)
  deriving DecidableEq

def isVoid (t : Text) : Bool :=
  match t with
  | [] => true
  | c :: _ => c = '#'

def Reading.ofValue (expand : Text → Text) (key value : Text) : Reading :=
  if isVoid value then .assigned key []
  else match readValue expand value with
    | some v => .assigned key v
    | none => .rejected value

def Reading.ofText (expand : Text → Text) (t : Text) : Reading :=
  let body := Text.trim t
  if isVoid body then .nothing
  else match readHead? body with
    | some (key, rest) => .ofValue expand key (Text.trimStart rest)
    | none => .rejected t

def Statement.read (expand : Text → Text) : Statement → Reading
  | .whole t => .ofText expand t
  | .unfinished t => .rejected t

end SkillHost.Dotenv
