import SkillHost.Skill.Registry
import SkillHost.Skill.Turns

/-! Dispatch of calls. A call runs until it pauses, and ends when its pause is over; several calls
at once overlap in their pauses. Time is counted in whole milliseconds, and calls that are due at
the same moment get their turns in rounds. A dispatch begins in the round in which the one before
it ended, with the room that is left there. -/
namespace SkillHost

/-- One call: what it reports before its pause, how long that is if it pauses at all, what it
reports after, and what it gives. -/
structure Execution (α : Type) where
  before : List Report
  pause : Option Nat
  after : List Report
  value : α

namespace Execution
variable {α : Type}

def reports (e : Execution α) : List Report := e.before ++ e.after

def time (e : Execution α) : Nat := e.pause.getD 0

def waits (e : Execution α) : Bool := 0 < e.time

def passes (e : Execution α) : Bool := e.pause = some 0

end Execution

namespace Registry

def invoke (r : Registry) (skill function input : Text) :
    Execution (Except SkillError (Option Text)) :=
  let name := qualifiedName skill function
  match r.get? skill function with
  | none => ⟨[], none, [], .error (.functionNotFound name)⟩
  | some f =>
    let activity := f.run input
    ⟨r.report .debug ("Invoking ".toList ++ name) :: activity.entries.map Report.entry,
      activity.pause.map Duration.milliseconds, [], activity.answer⟩

def invokeCall (r : Registry) (call : FunctionCall) : Execution FunctionResult :=
  let e := r.invoke call.skill call.function call.input
  match e.value with
  | .ok output => { e with value := ⟨call.id, output.getD [], false⟩ }
  | .error error =>
    { e with
      after := e.after ++
        [r.report .error (call.qualifiedName ++ " failed: ".toList ++ error.message)]
      value := ⟨call.id, error.message, true⟩ }

end Registry

namespace Dispatch
variable {α : Type}

/-- Up to so many calls keep their order in every round. -/
def few : Nat := 30

/-- The first round, in which calls start in order. All of them start in it, but a call that is
left to the next round does not come to its pause, and ends only if it has none. -/
def opening (room : Nat) (es : List (Execution α)) : List (Execution α) × List (Execution α) :=
  Turns.round Execution.passes room es

/-- The rounds after the first one in which calls come to their pause. Of many calls, the last one
that is left comes first. -/
def late (room : Nat) (es : List (Execution α)) : List (List (Execution α)) :=
  let left := (opening room es).2.filter fun e => e.pause.isSome
  Turns.rounds Execution.passes (if es.length ≤ few then left else left.reverse)

/-- The rounds in which calls end for which time has to pass, as their pauses are over. Of equal
pauses the one that began first has the first turn. -/
def ends (room : Nat) (es : List (Execution α)) : List (List (Execution α)) :=
  let waiting := ((opening room es).1 ++ (late room es).flatten).filter Execution.waits
  let moments := (waiting.mergeSort fun a b => a.time ≤ b.time).splitBy fun a b => a.time = b.time
  moments.flatMap (Turns.rounds fun _ => true)

def reports (room : Nat) (es : List (Execution α)) : List Report :=
  let (taken, left) := opening room es
  taken.flatMap (fun e => if e.waits then e.before else e.reports) ++
    left.flatMap (fun e => if e.pause.isSome then e.before else e.reports) ++
    ((late room es).flatten.filter Execution.passes ++ (ends room es).flatten).flatMap
      Execution.after

/-- The room that is left when all calls have ended: in the first round if there was no other, else
in the last one, in which every call that has its turn ends. -/
def roomLeft (room : Nat) (es : List (Execution α)) : Nat :=
  match (late room es ++ ends room es).getLast? with
  | none => room - (opening room es).1.countP Execution.passes
  | some last => Turns.limit - last.length

end Dispatch

structure Dispatched (α : Type) where
  values : List α
  reports : List Report
  time : Nat
  room : Nat

def dispatch {α : Type} (room : Nat) (es : List (Execution α)) : Dispatched α where
  values := es.map Execution.value
  reports := Dispatch.reports room es
  time := es.foldl (fun longest e => max longest e.time) 0
  room := Dispatch.roomLeft room es

def Registry.invokeCalls (r : Registry) (room : Nat) (calls : List FunctionCall) :
    Dispatched FunctionResult :=
  dispatch room (calls.map r.invokeCall)

end SkillHost
