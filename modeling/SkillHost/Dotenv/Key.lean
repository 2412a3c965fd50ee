import SkillHost.Text.Blank

/-! Keys of a settings file: a letter or underscore, then letters, digits, underscores and dots,
all of ASCII. The word `export` may stand before a key, and may be a key itself. -/
namespace SkillHost.Dotenv

def isKeyStart (c : Char) : Bool := c.isAlpha || c = '_'

def isKeyChar (c : Char) : Bool := c.isAlphanum || c = '_' || c = '.'

def exportWord : Text := ['e', 'x', 'p', 'o', 'r', 't']

def readKey? : Text → Option (Text × Text)
  | [] => none
  | c :: rest =>
    if isKeyStart c then some (c :: rest.takeWhile isKeyChar, rest.dropWhile isKeyChar) else none

def isKey : Text → Bool
  | [] => false
  | c :: rest => isKeyStart c && rest.all isKeyChar

def withoutExport (t : Text) : Text :=
  match Text.afterStart? exportWord t with
  | some (c :: rest) => if Text.isBlank c then Text.trimStart (c :: rest) else t
  | _ => t

def bareKey? (t : Text) : Option Text :=
  let key := withoutExport (Text.trim t)
  if isKey key then some key else none

end SkillHost.Dotenv
