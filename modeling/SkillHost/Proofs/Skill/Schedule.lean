import Mathlib.Logic.Function.Basic
import Mathlib.Logic.Relation
import SkillHost.Skill.Dispatch

/-! Calls that run at once, one turn after the other. Calls begin in order; a call with a pause falls
asleep, and has its second turn at some time after its pause is over; and time passes only when no
call has anything else to do. Whatever the order of the turns, each call does what it does alone. -/
namespace SkillHost.Schedule
variable {α : Type}

inductive Turn where
  | begins (call : Nat)
  | ends (call : Nat)

namespace Turn

def call : Turn → Nat
  | begins i => i
  | ends i => i

def begun? : Turn → Option Nat
  | begins i => some i
  | ends _ => none

def reports (es : List (Execution α)) : Turn → List Report
  | begins i => (es[i]?.map Execution.before).getD []
  | ends i => (es[i]?.map Execution.after).getD []

end Turn

inductive Stage (α : Type) where
  | coming
  | asleep (due : Nat)
  | ended (value : α)

structure Moment (α : Type) where
  clock : Nat
  stage : Nat → Stage α
  turns : List Turn

namespace Moment

def start : Moment α := ⟨0, fun _ => .coming, []⟩

def turn (m : Moment α) (i : Nat) (stage : Stage α) (turns : List Turn) : Moment α :=
  ⟨m.clock, Function.update m.stage i stage, m.turns ++ turns⟩

@[simp] theorem clock_turn (m : Moment α) (i : Nat) (stage : Stage α) (turns : List Turn) :
    (m.turn i stage turns).clock = m.clock := rfl

@[simp] theorem turns_turn (m : Moment α) (i : Nat) (stage : Stage α) (turns : List Turn) :
    (m.turn i stage turns).turns = m.turns ++ turns := rfl

theorem stage_turn_self (m : Moment α) (i : Nat) (stage : Stage α) (turns : List Turn) :
    (m.turn i stage turns).stage i = stage :=
  Function.update_self ..

theorem stage_turn_of_ne (m : Moment α) {i j : Nat} (h : j ≠ i) (stage : Stage α)
    (turns : List Turn) : (m.turn i stage turns).stage j = m.stage j :=
  Function.update_of_ne h ..

def reports (es : List (Execution α)) (m : Moment α) : List Report :=
  m.turns.flatMap (Turn.reports es)

def Complete (es : List (Execution α)) (m : Moment α) : Prop :=
  ∀ i < es.length, ∃ value, m.stage i = .ended value

end Moment

inductive Step (es : List (Execution α)) : Moment α → Moment α → Prop where
  | runs {m : Moment α} {i : Nat} {e : Execution α} (call : es[i]? = some e)
    (coming : m.stage i = .coming) (first : ∀ j < i, m.stage j ≠ .coming)
    (nonstop : e.pause = none) :
    Step es m (m.turn i (.ended e.value) [.begins i, .ends i])
  | pauses {m : Moment α} {i pause : Nat} {e : Execution α} (call : es[i]? = some e)
    (coming : m.stage i = .coming) (first : ∀ j < i, m.stage j ≠ .coming)
    (sleeps : e.pause = some pause) :
    Step es m (m.turn i (.asleep (m.clock + pause)) [.begins i])
  | wakes {m : Moment α} {i due : Nat} {e : Execution α} (call : es[i]? = some e)
    (asleep : m.stage i = .asleep due) (elapsed : due ≤ m.clock) :
    Step es m (m.turn i (.ended e.value) [.ends i])
  /-- Time passes until the first pause is over. -/
  | passes {m : Moment α} {i due : Nat} (begun : ∀ j < es.length, m.stage j ≠ .coming)
    (asleep : m.stage i = .asleep due) (later : m.clock < due)
    (least : ∀ j other, m.stage j = .asleep other → due ≤ other) :
    Step es m { m with clock := due }

abbrev Reaches (es : List (Execution α)) : Moment α → Moment α → Prop :=
  Relation.ReflTransGen (Step es)

inductive SoundAt (e : Execution α) (i clock : Nat) : Stage α → List Turn → Prop where
  | coming : SoundAt e i clock .coming []
  | asleep {due : Nat} (pause : e.pause = some due) :
    SoundAt e i clock (.asleep due) [.begins i]
  | ended (elapsed : e.time ≤ clock) : SoundAt e i clock (.ended e.value) [.begins i, .ends i]

structure Sound (es : List (Execution α)) (m : Moment α) : Prop where
  /-- So many calls have begun, in order, and time does not pass before all have. -/
  begun : ∃ count, m.turns.filterMap Turn.begun? = List.range count ∧ count ≤ es.length ∧
    (∀ i, m.stage i = .coming ↔ count ≤ i) ∧ (count < es.length → m.clock = 0)
  each : ∀ i e, es[i]? = some e →
    SoundAt e i m.clock (m.stage i) (m.turns.filter fun t => t.call = i)
  calls : ∀ t ∈ m.turns, t.call < es.length
  clock : m.clock = 0 ∨ ∃ e ∈ es, e.pause = some m.clock

theorem SoundAt.mono {e : Execution α} {i clock later : Nat} {stage : Stage α} {turns : List Turn}
    (h : SoundAt e i clock stage turns) (le : clock ≤ later) : SoundAt e i later stage turns := by
  cases h with
  | coming => exact .coming
  | asleep pause => exact .asleep pause
  | ended elapsed => exact .ended (Nat.le_trans elapsed le)

theorem sound_start (es : List (Execution α)) : Sound es .start where
  begun := ⟨0, rfl, Nat.zero_le _, fun i => ⟨fun _ => i.zero_le, fun _ => rfl⟩, fun _ => rfl⟩
  each _ _ _ := .coming
  calls := nofun
  clock := .inl rfl

theorem filter_turn_of_ne {m : Moment α} {i j : Nat} {stage : Stage α} {turns : List Turn}
    (own : ∀ t ∈ turns, t.call = i) (h : j ≠ i) :
    (m.turn i stage turns).turns.filter (fun t => t.call = j) =
      m.turns.filter fun t => t.call = j := by
  have none : turns.filter (fun t => t.call = j) = [] := by
    rw [List.filter_eq_nil_iff]
    intro t mem same
    rw [decide_eq_true_eq, own t mem] at same
    exact h same.symm
  rw [Moment.turns_turn, List.filter_append, none, List.append_nil]

theorem filter_turn_self {m : Moment α} {i : Nat} {stage : Stage α} {turns : List Turn}
    (own : ∀ t ∈ turns, t.call = i) :
    (m.turn i stage turns).turns.filter (fun t => t.call = i) =
      (m.turns.filter fun t => t.call = i) ++ turns := by
  have all : turns.filter (fun t => t.call = i) = turns :=
    List.filter_eq_self.mpr fun t mem => decide_eq_true (own t mem)
  rw [Moment.turns_turn, List.filter_append, all]

theorem Sound.turn_each {es : List (Execution α)} {m : Moment α} (h : Sound es m) {i : Nat}
    {e : Execution α} (call : es[i]? = some e) {stage : Stage α} {turns : List Turn}
    (own : ∀ t ∈ turns, t.call = i)
    (now : SoundAt e i m.clock stage ((m.turns.filter fun t => t.call = i) ++ turns)) :
    ∀ j other, es[j]? = some other → SoundAt other j (m.turn i stage turns).clock
      ((m.turn i stage turns).stage j)
      ((m.turn i stage turns).turns.filter fun t => t.call = j) := by
  intro j other found
  by_cases same : j = i
  · subst same
    obtain rfl : e = other := Option.some.inj (call.symm.trans found)
    rw [filter_turn_self own, Moment.clock_turn, Moment.stage_turn_self]
    exact now
  · rw [filter_turn_of_ne own same, Moment.clock_turn, m.stage_turn_of_ne same]
    exact h.each j other found

theorem Sound.turn_calls {es : List (Execution α)} {m : Moment α} (h : Sound es m) {i : Nat}
    (inside : i < es.length) {stage : Stage α} {turns : List Turn}
    (own : ∀ t ∈ turns, t.call = i) : ∀ t ∈ (m.turn i stage turns).turns, t.call < es.length := by
  intro t mem
  rw [Moment.turns_turn, List.mem_append] at mem
  cases mem with
  | inl mem => exact h.calls t mem
  | inr mem => rwa [own t mem]

theorem Sound.begin_turn {es : List (Execution α)} {m : Moment α} (h : Sound es m) {i : Nat}
    (inside : i < es.length) (coming : m.stage i = .coming) (first : ∀ j < i, m.stage j ≠ .coming)
    {stage : Stage α} (goes : stage ≠ .coming) {turns : List Turn}
    (one : turns.filterMap Turn.begun? = [i]) :
    ∃ count, (m.turn i stage turns).turns.filterMap Turn.begun? = List.range count ∧
      count ≤ es.length ∧ (∀ j, (m.turn i stage turns).stage j = .coming ↔ count ≤ j) ∧
        (count < es.length → (m.turn i stage turns).clock = 0) := by
  obtain ⟨count, begun, -, comes, clock⟩ := h.begun
  have next : count = i := by
    have le := (comes i).mp coming
    by_contra ne
    exact first count (by omega) ((comes count).mpr (Nat.le_refl _))
  subst next
  refine ⟨count + 1, ?_, inside, fun j => ?_, fun _ => clock inside⟩
  · rw [Moment.turns_turn, List.filterMap_append, begun, one, List.range_succ]
  · by_cases same : j = count
    · rw [same, Moment.stage_turn_self]
      exact ⟨fun absurd => (goes absurd).elim, fun le => by omega⟩
    · rw [m.stage_turn_of_ne same, comes j]
      omega

theorem Sound.step {es : List (Execution α)} {m m' : Moment α} (h : Sound es m)
    (step : Step es m m') : Sound es m' := by
  cases step with
  | @runs i e call coming first nonstop =>
    have inside : i < es.length := (List.getElem?_eq_some_iff.mp call).1
    have before := h.each i e call
    rw [coming] at before
    have own : ∀ t ∈ [Turn.begins i, .ends i], t.call = i := by simp [Turn.call]
    refine ⟨?_, h.turn_each call own ?_, h.turn_calls inside own, h.clock⟩
    · refine h.begin_turn inside coming first ?_ ?_
      · exact nofun
      · rfl
    · generalize m.turns.filter (fun t => t.call = i) = turns at before
      cases before with
      | coming => exact .ended (by simp [Execution.time, nonstop])
  | @pauses i pause e call coming first sleeps =>
    have inside : i < es.length := (List.getElem?_eq_some_iff.mp call).1
    have before := h.each i e call
    rw [coming] at before
    have own : ∀ t ∈ [Turn.begins i], t.call = i := by simp [Turn.call]
    refine ⟨?_, h.turn_each call own ?_, h.turn_calls inside own, h.clock⟩
    · refine h.begin_turn inside coming first ?_ ?_
      · exact nofun
      · rfl
    · -- No time has passed while a call is still to begin.
      obtain ⟨count, -, -, comes, clock⟩ := h.begun
      have zero : m.clock = 0 := clock (Nat.lt_of_le_of_lt ((comes i).mp coming) inside)
      generalize m.turns.filter (fun t => t.call = i) = turns at before
      cases before with
      | coming => exact .asleep (by rw [sleeps, zero, Nat.zero_add])
  | @wakes i due e call asleep elapsed =>
    have inside : i < es.length := (List.getElem?_eq_some_iff.mp call).1
    have before := h.each i e call
    rw [asleep] at before
    have own : ∀ t ∈ [Turn.ends i], t.call = i := by simp [Turn.call]
    refine ⟨?_, h.turn_each call own ?_, h.turn_calls inside own, h.clock⟩
    · obtain ⟨count, begun, le, comes, clock⟩ := h.begun
      refine ⟨count, ?_, le, fun j => ?_, clock⟩
      · rw [Moment.turns_turn, List.filterMap_append, begun]
        exact List.append_nil _
      · by_cases same : j = i
        · rw [same, Moment.stage_turn_self, ← comes i, asleep]
          exact ⟨nofun, nofun⟩
        · rw [m.stage_turn_of_ne same, comes j]
    · generalize m.turns.filter (fun t => t.call = i) = turns at before
      cases before with
      | asleep pause => exact .ended (by simpa [Execution.time, pause] using elapsed)
  | @passes i due begun asleep later least =>
    obtain ⟨count, turns, le, comes, -⟩ := h.begun
    refine ⟨⟨count, turns, le, comes, fun lt => ?_⟩, fun j e call => ?_, h.calls, ?_⟩
    · exact absurd ((comes count).mpr (Nat.le_refl _)) (begun count lt)
    · exact (h.each j e call).mono (Nat.le_of_lt later)
    · have inside : i < es.length := by
        by_contra outside
        rw [(comes i).mpr (by omega)] at asleep
        cases asleep
      have call : es[i]? = some es[i] := List.getElem?_eq_getElem inside
      have before := h.each i _ call
      rw [asleep] at before
      generalize m.turns.filter (fun t => t.call = i) = turns at before
      cases before with
      | asleep pause => exact .inr ⟨es[i], List.getElem_mem inside, pause⟩

theorem Sound.run {es : List (Execution α)} {m : Moment α} (h : Reaches es .start m) :
    Sound es m := by
  induction h with
  | refl => exact sound_start es
  | tail _ step ih => exact ih.step step

section
variable {es : List (Execution α)} {m : Moment α} (run : Reaches es .start m)
  (complete : m.Complete es)
include run complete

theorem complete_each {i : Nat} {e : Execution α} (call : es[i]? = some e) :
    m.stage i = .ended e.value ∧ e.time ≤ m.clock ∧
      (m.turns.filter fun t => t.call = i) = [.begins i, .ends i] := by
  have sound := (Sound.run run).each i e call
  obtain ⟨value, ended⟩ := complete i (List.getElem?_eq_some_iff.mp call).1
  rw [ended] at sound
  generalize m.turns.filter (fun t => t.call = i) = turns at sound
  rw [ended]
  cases sound with
  | ended elapsed => exact ⟨rfl, elapsed, rfl⟩

theorem complete_begun : m.turns.filterMap Turn.begun? = List.range es.length := by
  obtain ⟨count, begun, le, comes, -⟩ := (Sound.run run).begun
  have all : count = es.length := by
    by_contra ne
    obtain ⟨value, ended⟩ := complete count (by omega)
    rw [(comes count).mpr (Nat.le_refl _)] at ended
    cases ended
  rw [begun, all]

theorem complete_clock : m.clock = ((es.map Execution.time).max?).getD 0 := by
  cases longest : (es.map Execution.time).max? with
  | none =>
    rw [List.max?_eq_none_iff, List.map_eq_nil_iff] at longest
    obtain zero | ⟨e, mem, -⟩ := (Sound.run run).clock
    · exact zero
    · rw [longest] at mem
      cases mem
  | some time =>
    obtain ⟨attained, greatest⟩ := List.max?_eq_some_iff.mp longest
    obtain ⟨e, mem, rfl⟩ := List.mem_map.mp attained
    obtain ⟨i, call⟩ := List.getElem?_of_mem mem
    have le := (complete_each run complete call).2.1
    rw [Option.getD_some]
    refine Nat.le_antisymm ?_ le
    obtain zero | ⟨other, mem, pause⟩ := (Sound.run run).clock
    · rw [zero]
      exact Nat.zero_le _
    · have bound := greatest _ (List.mem_map_of_mem mem)
      rwa [Execution.time, pause] at bound

end

end SkillHost.Schedule
