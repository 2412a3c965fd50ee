import SkillHost.Text.Printable

/-! The quoted form of a text, in which any text can be shown on one line: double quotes around
it, a backslash before a quote or a backslash, short forms for the usual controls, and the
number of every other character that is not printable. -/
namespace SkillHost.Text

def numbered (c : Char) : Text :=
  ['\\', 'u', '{'] ++ Nat.toDigits 16 c.toNat ++ ['}']

def quotedChar (c : Char) : Text :=
  if c = '"' ∨ c = '\\' then ['\\', c]
  else if c = '\x00' then ['\\', '0']
  else if c = '\t' then ['\\', 't']
  else if c = '\r' then ['\\', 'r']
  else if c = '\n' then ['\\', 'n']
  else if isPrintable c then [c]
  else numbered c

def quoted (t : Text) : Text := ['"'] ++ t.flatMap quotedChar ++ ['"']

end SkillHost.Text
