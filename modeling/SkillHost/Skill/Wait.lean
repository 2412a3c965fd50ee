import SkillHost.Skill.Function

/-! The wait function: it pauses for the number of seconds that its argument gives, and has no
value. -/
namespace SkillHost.Wait

def logModule : Text := "semkit_core::skills::wait".toList

def parseSeconds (t : Text) : Except SkillError Duration :=
  match Duration.ofText? t with
  | some d => .ok d
  | none => .error (.invalidArgument "seconds text must be a number".toList)

def run (t : Text) : Activity :=
  match parseSeconds t with
  | .ok d => ⟨[⟨.debug, logModule, "waiting ".toList ++ d.text⟩], some d, .ok none⟩
  | .error e => ⟨[], none, .error e⟩

def function : SkillFunction where
  name := "wait".toList
  description := "Wait for a certain number of seconds.".toList
  inputSchema := SkillFunction.textSchema "seconds_text".toList
    [("description".toList,
      .string "Number of seconds to wait; negative values wait zero seconds".toList)]
  run := run

end SkillHost.Wait
