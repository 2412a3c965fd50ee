import SkillHost.Dotenv.Dollars
import SkillHost.Dotenv.Assignment
import SkillHost.Environment

/-! What the text of a settings file amounts to: the values that its statements leave, one after
the other. A statement that names a key alone takes it away again, and any other that cannot be
read is skipped. -/
namespace SkillHost.Dotenv

structure Parsed where
  values : Table Text Text
  /-- The last value assigned to each key, for references. A key taken away keeps it. -/
  assigned : Table Text Text
  skipped : Nat

namespace Parsed

def empty : Parsed := ⟨.empty, .empty, 0⟩

/-- What a reference stands for: a variable of the environment, else the value last assigned,
else nothing. -/
def expand (env : Environment) (parsed : Parsed) (name : Text) : Text :=
  (env.lookup name).getD ((parsed.assigned.get? name).getD [])

def apply (parsed : Parsed) : Reading → Parsed
  | .nothing => parsed
  | .assigned key value =>
    { parsed with
      values := parsed.values.insert key value
      assigned := parsed.assigned.insert key value }
  | .rejected text => match bareKey? text with
    | some key => { parsed with values := parsed.values.erase key }
    | none => { parsed with skipped := parsed.skipped + 1 }

def handle (env : Environment) (parsed : Parsed) (statement : Statement) : Parsed :=
  parsed.apply (statement.read (parsed.expand env))

end Parsed

def withoutMark : Text → Text
  | '\ufeff' :: rest => rest
  | t => t

def parse (env : Environment) (t : Text) : Parsed :=
  (statements (escapeDollars (withoutMark t))).foldl (Parsed.handle env) .empty

end SkillHost.Dotenv
