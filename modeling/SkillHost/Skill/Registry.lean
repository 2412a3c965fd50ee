import SkillHost.Skill.Call
import SkillHost.Skill.Function
import SkillHost.Table
import SkillHost.Text.Lowercase

/-! The registry of skill functions. A function is found by its skill's name and its own, both in
any case. -/
namespace SkillHost

structure Registered where
  skill : Text
  function : SkillFunction

inductive Logger where
  | debugLog (module : Text)
  | host

inductive Report where
  | entry (entry : LogEntry)
  | line (level : LogLevel) (message : Text)
  deriving DecidableEq

def Logger.report : Logger → LogLevel → Text → Report
  | debugLog module, level, message => .entry ⟨level, module, message⟩
  | host, level, message => .line level message

structure Registry where
  functions : Table Text Registered
  logger : Logger

namespace Registry

def logModule : Text := "semkit_core::skills::registry".toList

def empty (logger : Logger) : Registry := ⟨.empty, logger⟩

def default : Registry := empty (.debugLog logModule)

def key (skill function : Text) : Text :=
  qualifiedName (Text.lowercase skill) (Text.lowercase function)

def report (r : Registry) (level : LogLevel) (message : Text) : Report :=
  r.logger.report level ("[SkillRegistry] ".toList ++ message)

/-- A function kept under the same text as an earlier one replaces it, with a warning. -/
def register (skill : Text) (r : Registry) (f : SkillFunction) : Registry × List Report :=
  let k := key skill f.name
  (⟨r.functions.insert k ⟨skill, f⟩, r.logger⟩,
    if r.functions.contains k then [r.report .warn ("Replaced function ".toList ++ k)] else [])

def registerAll (skill : Text) (r : Registry) : List SkillFunction → Registry × List Report
  | [] => (r, [])
  | f :: rest =>
    let (r₁, first) := r.register skill f
    let (r₂, more) := r₁.registerAll skill rest
    (r₂, first ++ more)

def importSkill (r : Registry) (skill : Text) (fs : List SkillFunction) :
    Registry × List Report × Nat :=
  let (r', reports) := r.registerAll skill fs
  let summary := "Imported ".toList ++ Text.ofNat fs.length ++ " functions into skill '".toList ++
    skill ++ ['\'']
  (r', reports ++ [r.report .info summary], fs.length)

def removeSkill (r : Registry) (skill : Text) : Registry × Nat :=
  let kept := r.functions.filter fun _ f => Text.lowercase f.skill != Text.lowercase skill
  (⟨kept, r.logger⟩, r.functions.size - kept.size)

def get? (r : Registry) (skill function : Text) : Option SkillFunction :=
  (r.functions.get? (key skill function)).map Registered.function

def contains (r : Registry) (skill function : Text) : Bool :=
  r.functions.contains (key skill function)

def functionCount (r : Registry) : Nat := r.functions.size

def infoOf (f : Registered) : FunctionInfo :=
  ⟨f.skill, f.function.name, f.function.description, f.function.inputSchema⟩

def list (r : Registry) : List FunctionInfo :=
  (r.functions.entries.map fun e => infoOf e.2).mergeSort fun a b =>
    Text.le (Text.lowercase a.qualifiedName) (Text.lowercase b.qualifiedName)

def shown (r : Registry) : Text :=
  Text.record "SkillRegistry".toList
    [("functions".toList, Text.shownList (r.list.map fun i => Text.quoted i.qualifiedName))]

end Registry

end SkillHost
