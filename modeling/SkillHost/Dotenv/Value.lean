import SkillHost.Text.Alphanumeric

/-! Values of a settings file. Single quotes keep their text as it is; double quotes keep blanks
and allow references and escapes; outside quotes a space or tab ends the value. A dollar opens a
reference, to a braced name or to the letters and digits that follow. -/
namespace SkillHost.Dotenv

/-- Where the reader of a value stands. `quoted` tells whether double quotes are open. -/
inductive ValueScan where
  | text (quoted : Bool)
  | escape (quoted : Bool)
  | single
  | reference (quoted : Bool) (name : Text)
  | braced (quoted : Bool) (name : Text)
  | ending

def unescape? (c : Char) : Option Char :=
  if c = '\\' ∨ c = '\'' ∨ c = '"' ∨ c = '$' ∨ c = ' ' then some c
  else if c = 'n' then some '\n'
  else none

/-- Reads the rest of a value; `expand` gives what a name refers to. It fails where the value is
malformed. -/
def readValueFrom (expand : Text → Text) : ValueScan → Text → Option Text
  | .ending, [] => some []
  | .ending, c :: rest =>
    if c = ' ' ∨ c = '\t' then readValueFrom expand .ending rest
    else if c = '#' then some []
    else none
  | .escape quoted, [] => if quoted then none else some []
  | .escape quoted, c :: rest =>
    (unescape? c).bind fun d => (readValueFrom expand (.text quoted) rest).map (d :: ·)
  | .single, [] => none
  | .single, c :: rest =>
    if c = '\'' then readValueFrom expand (.text false) rest
    else (readValueFrom expand .single rest).map (c :: ·)
  | .reference quoted name, [] => if quoted then none else some (expand name)
  | .reference quoted name, c :: rest =>
    if Text.isAlphanumeric c then readValueFrom expand (.reference quoted (name ++ [c])) rest
    else if c = '{' ∧ name = [] then readValueFrom expand (.braced quoted []) rest
    else if c = '$' then (readValueFrom expand (.reference quoted []) rest).map (expand name ++ ·)
    else (readValueFrom expand (.text quoted) rest).map (expand name ++ c :: ·)
  | .braced _ _, [] => none
  | .braced quoted name, c :: rest =>
    if c = '}' then (readValueFrom expand (.text quoted) rest).map (expand name ++ ·)
    else readValueFrom expand (.braced quoted (name ++ [c])) rest
  | .text true, [] => none
  | .text true, c :: rest =>
    if c = '$' then readValueFrom expand (.reference true []) rest
    else if c = '"' then readValueFrom expand (.text false) rest
    else if c = '\\' then readValueFrom expand (.escape true) rest
    else (readValueFrom expand (.text true) rest).map (c :: ·)
  | .text false, [] => some []
  | .text false, c :: rest =>
    if c = '$' then readValueFrom expand (.reference false []) rest
    else if c = '\'' then readValueFrom expand .single rest
    else if c = '"' then readValueFrom expand (.text true) rest
    else if c = '\\' then readValueFrom expand (.escape false) rest
    else if c = ' ' ∨ c = '\t' then readValueFrom expand .ending rest
    else (readValueFrom expand (.text false) rest).map (c :: ·)

def readValue (expand : Text → Text) (t : Text) : Option Text :=
  readValueFrom expand (.text false) t

end SkillHost.Dotenv
