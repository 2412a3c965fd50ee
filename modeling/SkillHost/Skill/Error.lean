import SkillHost.Text.Basic

/-! Errors of skill functions and of their registry. -/
namespace SkillHost

inductive SkillError where
  | invalidArgument (message : Text)
  | functionNotFound (qualifiedName : Text)
  | failed (message : Text)
  deriving DecidableEq

def SkillError.message : SkillError → Text
  | invalidArgument message => message
  | functionNotFound name => "Function not found: ".toList ++ name
  | failed message => "Function failed: ".toList ++ message

end SkillHost
