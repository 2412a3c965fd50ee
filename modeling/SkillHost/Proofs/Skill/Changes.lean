import Mathlib.Data.List.Induction
import SkillHost.Proofs.Table
import SkillHost.Skill.Registry

/-! Runs of a registry: what is kept in it after imports and removals. An import is taken apart
into its functions, so that a run is a list of events of which each concerns one text or one
skill. -/
namespace SkillHost

def Registered.key (entry : Registered) : Text := Registry.key entry.skill entry.function.name

def Registered.isOf (entry : Registered) (skill : Text) : Bool :=
  Text.lowercase entry.skill == Text.lowercase skill

namespace Registry

inductive Change where
  | importSkill (skill : Text) (fs : List SkillFunction)
  | removeSkill (skill : Text)

def change (r : Registry) : Change → Registry
  | .importSkill skill fs => (r.importSkill skill fs).1
  | .removeSkill skill => (r.removeSkill skill).1

def run (r : Registry) (changes : List Change) : Registry := changes.foldl change r

inductive Event where
  | registered (entry : Registered)
  | removed (skill : Text)

def Change.events : Change → List Event
  | importSkill skill fs => fs.map fun f => .registered ⟨skill, f⟩
  | removeSkill skill => [.removed skill]

def history (changes : List Change) : List Event := changes.flatMap Change.events

def handle (r : Registry) : Event → Registry
  | .registered entry => (r.register entry.skill entry.function).1
  | .removed skill => (r.removeSkill skill).1

theorem registerAll_cons (r : Registry) (skill : Text) (f : SkillFunction)
    (fs : List SkillFunction) :
    r.registerAll skill (f :: fs) =
      (((r.register skill f).1.registerAll skill fs).1,
        (r.register skill f).2 ++ ((r.register skill f).1.registerAll skill fs).2) := rfl

theorem change_eq (r : Registry) (c : Change) : r.change c = c.events.foldl handle r := by
  cases c with
  | removeSkill skill => rfl
  | importSkill skill fs =>
    have all : (r.registerAll skill fs).1 =
        (fs.map fun f => Event.registered ⟨skill, f⟩).foldl handle r := by
      induction fs generalizing r with
      | nil => rfl
      | cons f fs ih =>
        rw [registerAll_cons, List.map_cons, List.foldl_cons]
        exact ih (r.register skill f).1
    exact all

theorem run_eq (r : Registry) (changes : List Change) :
    r.run changes = (history changes).foldl handle r := by
  rw [history, List.foldl_flatMap, run]
  congr
  funext r c
  exact r.change_eq c

def kept? (r : Registry) (k : Text) : Option Registered := r.functions.get? k

theorem get?_eq (r : Registry) (skill function : Text) :
    r.get? skill function = (r.kept? (key skill function)).map Registered.function := rfl

theorem contains_eq (r : Registry) (skill function : Text) :
    r.contains skill function = (r.kept? (key skill function)).isSome := rfl

@[simp] theorem kept?_empty (logger : Logger) (k : Text) : (empty logger).kept? k = none := rfl

@[simp] theorem kept?_registered (r : Registry) (entry : Registered) (k : Text) :
    (r.handle (.registered entry)).kept? k = if k = entry.key then some entry else r.kept? k :=
  Table.get?_insert r.functions entry.key k entry

@[simp] theorem kept?_removed (r : Registry) (skill k : Text) :
    (r.handle (.removed skill)).kept? k = (r.kept? k).filter fun entry => !entry.isOf skill :=
  Table.get?_filter r.functions (fun _ entry => !entry.isOf skill) k

@[simp] theorem logger_handle (r : Registry) (e : Event) : (r.handle e).logger = r.logger := by
  cases e <;> rfl

theorem logger_change (r : Registry) (c : Change) : (r.change c).logger = r.logger := by
  rw [change_eq]
  generalize c.events = events
  induction events generalizing r with
  | nil => rfl
  | cons e events ih => rw [List.foldl_cons, ih, logger_handle]

end Registry

end SkillHost
