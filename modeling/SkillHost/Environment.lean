import SkillHost.Content
import SkillHost.Path
import SkillHost.Table

/-! The environment of a process: named variables, each with some content. -/
namespace SkillHost

structure Environment where
  bindings : Table Text Content

namespace Environment

def empty : Environment := ⟨.empty⟩

def set (env : Environment) (name : Text) (value : Content) : Environment :=
  ⟨env.bindings.insert name value⟩

def unset (env : Environment) (name : Text) : Environment := ⟨env.bindings.erase name⟩

/-- The text of a variable. A variable is kept as one text, name, equals sign and value, and is
found by the beginning of that: so `A=B` finds what follows `B=` in the variable `A`. An empty
name finds nothing, nor does one with a character U+0000, nor is content found that is no text. -/
def lookup (env : Environment) (name : Text) : Option Text :=
  if name.isEmpty || name.contains '\x00' then none
  else env.bindings.entries.findSome? fun v =>
    v.2.text?.bind fun value => Text.afterStart? (name ++ ['=']) (v.1 ++ '=' :: value)

def path? (env : Environment) (name : Text) : Option Path :=
  (env.bindings.get? name).map fun content => ⟨content.bytes⟩

@[simp] theorem lookup_nil (env : Environment) : env.lookup [] = none := rfl

end Environment

end SkillHost
