import SkillHost.Text.Quoted

/-! How values are shown to a reader: records by their fields, lists in brackets, texts quoted. -/
namespace SkillHost.Text

def record (name : Text) (fields : List (Text × Text)) : Text :=
  name ++ [' ', '{', ' '] ++ joinWith [',', ' '] (fields.map fun f => f.1 ++ [':', ' '] ++ f.2) ++
    [' ', '}']

def shownOption : Option Text → Text
  | none => "None".toList
  | some t => "Some(".toList ++ quoted t ++ [')']

def shownBool (b : Bool) : Text := if b then "true".toList else "false".toList

def shownList (items : List Text) : Text := '[' :: joinWith [',', ' '] items ++ [']']

end SkillHost.Text
