import SkillHost.Text.Blank

/-! Bare dollars. In a settings file only a braced name after a dollar is a reference; any other
dollar stands for itself. So a backslash is put before each bare dollar outside single quotes and
comments, and the readers after this one then take it literally. -/
namespace SkillHost.Dotenv

/-- Where a scan for bare dollars stands. Outside quotes it is kept whether a blank, a line end of
a comment, or nothing came before: there `#` starts a comment. -/
inductive DollarScan where
  | plain (afterBlank : Bool)
  | plainEscape
  | single
  | double
  | doubleEscape
  | comment
  deriving DecidableEq

def DollarScan.next : DollarScan → Char → DollarScan
  | plain afterBlank, c =>
    if c = '#' ∧ afterBlank then comment
    else if c = '\\' then plainEscape
    else if c = '\'' then single
    else if c = '"' then double
    else plain (Text.isBlank c)
  | plainEscape, _ => plain false
  | single, c => if c = '\'' then plain false else single
  | double, c => if c = '\\' then doubleEscape else if c = '"' then plain false else double
  | doubleEscape, _ => double
  | comment, c => if c = '\n' then plain true else comment

def DollarScan.expands : DollarScan → Bool
  | plain _ | double => true
  | _ => false

def escapeDollarsFrom : DollarScan → Text → Text
  | _, [] => []
  | s, c :: rest =>
    (if c = '$' ∧ s.expands ∧ rest.head? ≠ some '{' then ['\\', c] else [c]) ++
      escapeDollarsFrom (s.next c) rest

def escapeDollars (t : Text) : Text := escapeDollarsFrom (.plain true) t

end SkillHost.Dotenv
