import Mathlib.Data.List.Perm.Basic
import Mathlib.Data.List.SplitBy
import SkillHost.Proofs.Skill.Schedule

/-! The rounds of a dispatch as a run of turns. In the first round calls begin in order, and those
that need no more than it end; the others end in the order of their pauses. -/
namespace SkillHost.Schedule
variable {α : Type}

/-- Whether a call does not end in the round in which it begins, `taken` being how many calls have
their full turn in that round. -/
def dozes (taken : Nat) (x : Execution α × Nat) : Bool :=
  if x.2 < taken then x.1.waits else x.1.pause.isSome

theorem time_of_not_dozes {taken : Nat} {x : Execution α × Nat} (h : dozes taken x = false) :
    x.1.time = 0 := by
  rw [dozes] at h
  split at h
  · simpa [Execution.waits] using h
  · have none : x.1.pause = none := by simpa using h
    rw [Execution.time, none, Option.getD_none]

theorem pause_of_dozes {taken : Nat} {x : Execution α × Nat} (h : dozes taken x = true) :
    x.1.pause = some x.1.time := by
  cases pause : x.1.pause with
  | none => simp [dozes, Execution.waits, Execution.time, pause] at h
  | some time => rw [Execution.time, pause, Option.getD_some]

def openingTurns (taken : Nat) (x : Execution α × Nat) : List Turn :=
  if dozes taken x then [.begins x.2] else [.begins x.2, .ends x.2]

def openingStage (taken : Nat) (x : Execution α × Nat) : Stage α :=
  if dozes taken x then .asleep x.1.time else .ended x.1.value

def opened (es : List (Execution α)) (taken count : Nat) : Moment α where
  clock := 0
  stage i := if i < count then (es[i]?.map fun e => openingStage taken (e, i)).getD .coming else .coming
  turns := (es.zipIdx.take count).flatMap (openingTurns taken)

theorem Moment.turn_turn (m : Moment α) (i : Nat) (stage later : Stage α) (turns more : List Turn) :
    (m.turn i stage turns).turn i later more = m.turn i later (turns ++ more) := by
  simp only [Moment.turn, Function.update_idem, List.append_assoc]

theorem opened_succ {es : List (Execution α)} {taken i : Nat} {e : Execution α}
    (call : es[i]? = some e) : opened es taken (i + 1) =
      (opened es taken i).turn i (openingStage taken (e, i)) (openingTurns taken (e, i)) := by
  rw [opened, opened, Moment.turn]
  congr 1
  · funext j
    by_cases same : j = i
    · subst same
      simp [call]
    · rw [Function.update_of_ne same]
      have iff : j < i + 1 ↔ j < i := by omega
      simp only [iff]
  · rw [List.take_add_one, List.getElem?_zipIdx, call]
    simp

theorem reaches_opened_succ {es : List (Execution α)} {taken i : Nat} {e : Execution α}
    (call : es[i]? = some e) :
    Reaches es (opened es taken i) (opened es taken (i + 1)) := by
  rw [opened_succ call, openingStage, openingTurns]
  have coming : (opened es taken i).stage i = .coming := if_neg (Nat.lt_irrefl i)
  have first : ∀ j < i, (opened es taken i).stage j ≠ .coming := by
    intro j lt
    have inside : j < es.length := Nat.lt_trans lt (List.getElem?_eq_some_iff.mp call).1
    simp only [opened, if_pos lt, List.getElem?_eq_getElem inside, Option.map_some,
      Option.getD_some, openingStage]
    split <;> exact nofun
  cases long : dozes taken (e, i) with
  | true =>
    have pauses := Step.pauses call coming first (pause_of_dozes long)
    rw [show (opened es taken i).clock = 0 from rfl, Nat.zero_add] at pauses
    exact .single pauses
  | false =>
    have zero : e.time = 0 := time_of_not_dozes long
    cases pause : e.pause with
    | none => exact .single (.runs call coming first pause)
    | some time =>
      rw [Execution.time, pause, Option.getD_some] at zero
      subst zero
      refine .tail (.single (.pauses call coming first pause)) ?_
      have wakes := Step.wakes call (Moment.stage_turn_self (opened es taken i) i _ [.begins i])
        (Nat.le_refl _)
      rw [Moment.turn_turn] at wakes
      exact wakes

theorem reaches_opened (es : List (Execution α)) (taken : Nat) {count : Nat}
    (le : count ≤ es.length) : Reaches es .start (opened es taken count) := by
  induction count with
  | zero => exact .refl
  | succ count ih =>
    exact (ih (Nat.le_of_succ_le le)).trans
      (reaches_opened_succ (List.getElem?_eq_getElem (Nat.lt_of_succ_le le)))

/-- Calls that sleep, in the order in which their pauses end, when all others have ended. -/
structure Sleeping (es : List (Execution α)) (m : Moment α) (waiting : List (Execution α × Nat)) :
    Prop where
  begun : ∀ i < es.length, m.stage i ≠ .coming
  calls : ∀ x ∈ waiting, es[x.2]? = some x.1
  asleep : ∀ x ∈ waiting, m.stage x.2 = .asleep x.1.time
  only : ∀ i due, m.stage i = .asleep due → ∃ x ∈ waiting, x.2 = i
  distinct : (waiting.map Prod.snd).Nodup
  sorted : waiting.Pairwise fun x y => x.1.time ≤ y.1.time
  ahead : ∀ x ∈ waiting, m.clock ≤ x.1.time

theorem Sleeping.passes {es : List (Execution α)} {m : Moment α} {x : Execution α × Nat}
    {rest : List (Execution α × Nat)} (h : Sleeping es m (x :: rest)) :
    Reaches es m { m with clock := x.1.time } := by
  have least : ∀ j other, m.stage j = .asleep other → x.1.time ≤ other := by
    intro j other stage
    obtain ⟨y, mem, rfl⟩ := h.only j other stage
    have time := h.asleep y mem
    rw [stage] at time
    obtain rfl : other = y.1.time := Stage.asleep.inj time
    rw [List.mem_cons] at mem
    obtain rfl | mem := mem
    · exact Nat.le_refl _
    · exact (List.pairwise_cons.mp h.sorted).1 y mem
  have le := h.ahead x List.mem_cons_self
  by_cases later : m.clock < x.1.time
  · exact .single (.passes h.begun (h.asleep x List.mem_cons_self) later least)
  · rw [show x.1.time = m.clock by omega]

theorem Sleeping.wakes {es : List (Execution α)} {m : Moment α} {x : Execution α × Nat}
    {rest : List (Execution α × Nat)} (h : Sleeping es m (x :: rest)) :
    ∃ m', Reaches es m m' ∧ m'.turns = m.turns ++ [.ends x.2] ∧ Sleeping es m' rest := by
  have distinct := h.distinct
  rw [List.map_cons, List.nodup_cons] at distinct
  have sorted := List.pairwise_cons.mp h.sorted
  have woken : Step es { m with clock := x.1.time }
      (Moment.turn { m with clock := x.1.time } x.2 (.ended x.1.value) [.ends x.2]) :=
    .wakes (h.calls x List.mem_cons_self) (h.asleep x List.mem_cons_self) (Nat.le_refl _)
  refine ⟨_, h.passes.tail woken, rfl, ?_⟩
  generalize next : Moment.turn { m with clock := x.1.time } x.2 (.ended x.1.value)
    [.ends x.2] = m'
  have self : m'.stage x.2 = .ended x.1.value := by
    rw [← next]
    exact Moment.stage_turn_self ..
  have others : ∀ {j}, j ≠ x.2 → m'.stage j = m.stage j := by
    intro j ne
    rw [← next]
    exact Moment.stage_turn_of_ne _ ne ..
  refine ⟨fun i inside => ?_, fun y mem => h.calls y (List.mem_cons_of_mem _ mem),
    fun y mem => ?_, fun i due stage => ?_, distinct.2, sorted.2, ?_⟩
  · by_cases same : i = x.2
    · rw [same, self]
      exact nofun
    · rw [others same]
      exact h.begun i inside
  · have apart : y.2 ≠ x.2 := fun same => distinct.1 (same ▸ List.mem_map_of_mem mem)
    rw [others apart]
    exact h.asleep y (List.mem_cons_of_mem _ mem)
  · by_cases same : i = x.2
    · rw [same, self] at stage
      cases stage
    · rw [others same] at stage
      obtain ⟨y, mem, rfl⟩ := h.only i due stage
      exact ⟨y, List.mem_of_ne_of_mem (fun eq => same (by rw [eq])) mem, rfl⟩
  · rw [← next]
    exact sorted.1

theorem Sleeping.run {es : List (Execution α)} {m : Moment α} {waiting : List (Execution α × Nat)}
    (h : Sleeping es m waiting) :
    ∃ m', Reaches es m m' ∧ m'.turns = m.turns ++ waiting.map (fun x => .ends x.2) ∧
      m'.Complete es := by
  induction waiting generalizing m with
  | nil =>
    refine ⟨m, .refl, (List.append_nil _).symm, fun i inside => ?_⟩
    cases stage : m.stage i with
    | coming => exact absurd stage (h.begun i inside)
    | asleep due =>
      obtain ⟨x, mem, -⟩ := h.only i due stage
      cases mem
    | ended value => exact ⟨value, rfl⟩
  | cons x rest ih =>
    obtain ⟨m₁, first, turns₁, sleeping⟩ := h.wakes
    obtain ⟨m', others, turns, complete⟩ := ih sleeping
    refine ⟨m', first.trans others, ?_, complete⟩
    rw [turns, turns₁, List.append_assoc, List.singleton_append, List.map_cons]

theorem opened_stage {es : List (Execution α)} {taken i : Nat} {e : Execution α}
    (call : es[i]? = some e) :
    (opened es taken es.length).stage i = openingStage taken (e, i) := by
  have inside : i < es.length := (List.getElem?_eq_some_iff.mp call).1
  simp only [opened, if_pos inside, call, Option.map_some, Option.getD_some]

theorem sleeping_opened {es : List (Execution α)} {taken : Nat}
    {waiting : List (Execution α × Nat)}
    (perm : waiting.Perm (es.zipIdx.filter (dozes taken)))
    (sorted : waiting.Pairwise fun x y => x.1.time ≤ y.1.time) :
    Sleeping es (opened es taken es.length) waiting := by
  have iff (x : Execution α × Nat) : x ∈ waiting ↔ es[x.2]? = some x.1 ∧ dozes taken x = true := by
    rw [perm.mem_iff, List.mem_filter, ← List.mk_mem_zipIdx_iff_getElem?]
  refine ⟨fun i inside => ?_, fun x mem => ((iff x).mp mem).1, fun x mem => ?_,
    fun i due stage => ?_, ?_, sorted, fun x _ => Nat.zero_le _⟩
  · rw [opened_stage (List.getElem?_eq_getElem inside), openingStage]
    split <;> exact nofun
  · obtain ⟨call, long⟩ := (iff x).mp mem
    rw [opened_stage call, openingStage, if_pos long]
  · cases call : es[i]? with
    | none => simp [opened, call] at stage
    | some e =>
      rw [opened_stage call, openingStage] at stage
      split at stage
      · rename_i long
        exact ⟨(e, i), (iff _).mpr ⟨call, long⟩, rfl⟩
      · cases stage
  · have nodup : (es.zipIdx.map Prod.snd).Nodup := by
      rw [List.zipIdx_map_snd]
      exact List.nodup_range'
    have sub : ((es.zipIdx.filter (dozes taken)).map Prod.snd).Sublist (es.zipIdx.map Prod.snd) :=
      List.filter_sublist.map _
    exact (perm.map Prod.snd).nodup_iff.mpr (sub.nodup nodup)

end SkillHost.Schedule

namespace SkillHost.Dispatch
open Schedule
open scoped List
variable {α : Type}

theorem flatten_flatMap_rounds_perm (groups : List (List (Execution α))) :
    (groups.flatMap (Turns.rounds fun _ => true)).flatten.Perm groups.flatten := by
  induction groups with
  | nil => exact .nil
  | cons group rest ih =>
    rw [List.flatMap_cons, List.flatten_append, List.flatten_cons]
    exact (Turns.rounds_flatten_perm _ group).append ih

theorem flatten_ends_perm (room : Nat) (es : List (Execution α)) :
    (ends room es).flatten.Perm
      (((opening room es).1 ++ (late room es).flatten).filter Execution.waits) := by
  rw [ends]
  refine (flatten_flatMap_rounds_perm _).trans ?_
  rw [List.flatten_splitBy]
  exact List.mergeSort_perm ..

theorem pairwise_flatten_rounds {groups : List (List (Execution α))}
    (equal : ∀ group ∈ groups, ∀ a ∈ group, ∀ b ∈ group, a.time = b.time)
    (sorted : groups.flatten.Pairwise fun a b => a.time ≤ b.time) :
    (groups.flatMap (Turns.rounds fun _ => true)).flatten.Pairwise fun a b => a.time ≤ b.time := by
  induction groups with
  | nil => exact .nil
  | cons group rest ih =>
    rw [List.flatten_cons, List.pairwise_append] at sorted
    rw [List.flatMap_cons, List.flatten_append, List.pairwise_append]
    have perm := Turns.rounds_flatten_perm (fun _ => true) group
    have perm' := flatten_flatMap_rounds_perm rest
    refine ⟨?_, ih (fun g mem => equal g (List.mem_cons_of_mem _ mem)) sorted.2.1, ?_⟩
    · refine List.pairwise_of_forall_mem_list fun a ha b hb => ?_
      exact Nat.le_of_eq (equal group List.mem_cons_self a (perm.mem_iff.mp ha) b (perm.mem_iff.mp hb))
    · exact fun a ha b hb => sorted.2.2 a (perm.mem_iff.mp ha) b (perm'.mem_iff.mp hb)

theorem pairwise_flatten_ends (room : Nat) (es : List (Execution α)) :
    (ends room es).flatten.Pairwise fun a b => a.time ≤ b.time := by
  rw [ends]
  refine pairwise_flatten_rounds (fun group mem a ha b hb => ?_) ?_
  · have trans : IsTrans (Execution α) fun a b => a.time = b.time := ⟨fun _ _ _ => Eq.trans⟩
    have symm : Std.Symm fun a b : Execution α => a.time = b.time := ⟨fun _ _ => Eq.symm⟩
    have chain : group.IsChain fun a b => a.time = b.time := by
      simpa only [decide_eq_true_eq] using List.isChain_of_mem_splitBy mem
    exact @List.Pairwise.forall_of_forall _ (fun a b => a.time = b.time) _ symm (fun _ _ => rfl)
      (List.isChain_iff_pairwise.mp chain) _ ha _ hb
  · rw [List.flatten_splitBy]
    refine List.Pairwise.imp (fun le => of_decide_eq_true le) (List.pairwise_mergeSort ?_ ?_ _)
    · intro a b c le le'
      exact decide_eq_true (Nat.le_trans (of_decide_eq_true le) (of_decide_eq_true le'))
    · intro a b
      rw [Bool.or_eq_true, decide_eq_true_eq, decide_eq_true_eq]
      exact Nat.le_total a.time b.time

theorem flatten_late_perm (room : Nat) (es : List (Execution α)) :
    (late room es).flatten.Perm ((opening room es).2.filter fun e => e.pause.isSome) := by
  rw [late]
  refine (Turns.rounds_flatten_perm _ _).trans ?_
  split
  · exact .refl _
  · exact List.reverse_perm _

/-- The calls that do not end in the round in which they begin, in the order in which they end. -/
def ending (room : Nat) (es : List (Execution α)) : List (Execution α) :=
  (late room es).flatten.filter Execution.passes ++ (ends room es).flatten

theorem ending_perm (room : Nat) (es : List (Execution α)) :
    (ending room es).Perm ((opening room es).1.filter Execution.waits ++
      (opening room es).2.filter fun e => e.pause.isSome) := by
  have late_perm := flatten_late_perm room es
  have rest : (late room es).flatten.filter Execution.waits =
      (late room es).flatten.filter fun e => !e.passes := by
    refine List.filter_congr fun e mem => ?_
    have pauses := (List.mem_filter.mp (late_perm.mem_iff.mp mem)).2
    obtain ⟨time, pause⟩ := Option.isSome_iff_exists.mp pauses
    simp [Execution.waits, Execution.passes, Execution.time, pause, Nat.pos_iff_ne_zero]
  have ends_perm := flatten_ends_perm room es
  rw [List.filter_append, rest] at ends_perm
  calc ending room es
    _ ~ (late room es).flatten.filter Execution.passes ++
        ((opening room es).1.filter Execution.waits ++
          (late room es).flatten.filter fun e => !e.passes) := ends_perm.append_left _
    _ ~ (opening room es).1.filter Execution.waits ++
        ((late room es).flatten.filter Execution.passes ++
          (late room es).flatten.filter fun e => !e.passes) := List.perm_append_comm_assoc ..
    _ ~ (opening room es).1.filter Execution.waits ++ (late room es).flatten :=
      (List.filter_append_perm _ _).append_left _
    _ ~ _ := late_perm.append_left _

theorem pairwise_ending (room : Nat) (es : List (Execution α)) :
    (ending room es).Pairwise fun a b => a.time ≤ b.time := by
  have zero : ∀ e ∈ (late room es).flatten.filter Execution.passes, e.time = 0 := by
    intro e mem
    have passes := (List.mem_filter.mp mem).2
    rw [Execution.passes, decide_eq_true_eq] at passes
    rw [Execution.time, passes, Option.getD_some]
  rw [ending, List.pairwise_append]
  refine ⟨?_, pairwise_flatten_ends room es, fun a mem b _ => ?_⟩
  · exact List.pairwise_of_forall_mem_list fun a ha b _ => by rw [zero a ha]; exact Nat.zero_le _
  · rw [zero a mem]
    exact Nat.zero_le _

theorem flatMap_zipIdx_append {β γ : Type} (taken left : List β) {f : β × Nat → List γ}
    {g h : β → List γ} (early : ∀ x, x.2 < taken.length → f x = g x.1)
    (late : ∀ x, ¬x.2 < taken.length → f x = h x.1) :
    (taken ++ left).zipIdx.flatMap f = taken.flatMap g ++ left.flatMap h := by
  rw [List.zipIdx_append, List.flatMap_append]
  congr 1
  · rw [List.flatMap_congr fun x mem => early x (by simpa using List.snd_lt_of_mem_zipIdx mem),
      ← List.flatMap_map, List.zipIdx_map_fst]
  · rw [List.flatMap_congr fun x mem => late x (by simpa using List.le_snd_of_mem_zipIdx mem),
      ← List.flatMap_map, List.zipIdx_map_fst]

theorem map_filter_eq_flatMap {β γ : Type} (p : β → Bool) (f : β → γ) (l : List β) :
    (l.filter p).map f = l.flatMap fun x => if p x then [f x] else [] := by
  induction l with
  | nil => rfl
  | cons x rest ih =>
    rw [List.filter_cons, List.flatMap_cons, ← ih]
    split <;> rfl

theorem map_fst_filter_dozes (taken left : List (Execution α)) :
    ((taken ++ left).zipIdx.filter (dozes taken.length)).map Prod.fst =
      taken.filter Execution.waits ++ left.filter fun e => e.pause.isSome := by
  rw [map_filter_eq_flatMap, flatMap_zipIdx_append taken left
    (g := fun e => if e.waits then [e] else []) (h := fun e => if e.pause.isSome then [e] else []),
    ← List.map_id (taken.filter _), ← List.map_id (left.filter _), map_filter_eq_flatMap,
    map_filter_eq_flatMap]
  · rfl
  · intro x early
    rw [dozes, if_pos early]
  · intro x late
    rw [dozes, if_neg late]

theorem reports_opened (taken left : List (Execution α)) :
    (opened (taken ++ left) taken.length (taken ++ left).length).reports (taken ++ left) =
      taken.flatMap (fun e => if e.waits then e.before else e.reports) ++
        left.flatMap fun e => if e.pause.isSome then e.before else e.reports := by
  have turns : (opened (taken ++ left) taken.length (taken ++ left).length).reports (taken ++ left) =
      (taken ++ left).zipIdx.flatMap fun x =>
        if dozes taken.length x then x.1.before else x.1.reports := by
    have all : (taken ++ left).zipIdx.take (taken ++ left).length = (taken ++ left).zipIdx :=
      List.take_of_length_le (by rw [List.length_zipIdx])
    rw [Moment.reports, opened, all, List.flatMap_assoc]
    refine List.flatMap_congr fun x mem => ?_
    have call := List.mem_zipIdx_iff_getElem?.mp mem
    rw [openingTurns]
    split <;> simp [Turn.reports, call, Execution.reports]
  rw [turns]
  refine flatMap_zipIdx_append taken left (fun x early => ?_) (fun x late => ?_)
  · rw [dozes, if_pos early]
  · rw [dozes, if_neg late]

/-- A dispatch is a complete run, in which its reports are made. -/
theorem exists_run (room : Nat) (es : List (Execution α)) :
    ∃ m, Reaches es .start m ∧ m.Complete es ∧ m.reports es = reports room es := by
  have parts : (opening room es).1 ++ (opening room es).2 = es := Turns.round_append ..
  generalize len : (opening room es).1.length = taken
  obtain ⟨waiting, ended, perm⟩ : ∃ waiting : List (Execution α × Nat),
      ending room es = waiting.map Prod.fst ∧ waiting.Perm (es.zipIdx.filter (dozes taken)) := by
    have perm := ending_perm room es
    rw [← map_fst_filter_dozes, parts, len] at perm
    exact (congrFun (congrFun (List.eq_map_comp_perm Prod.fst) _) _).mpr perm
  have sorted := pairwise_ending room es
  rw [ended, List.pairwise_map] at sorted
  have opens := reaches_opened es taken (Nat.le_refl _)
  have sleeping := sleeping_opened perm sorted
  obtain ⟨m, run, turns, complete⟩ := sleeping.run
  refine ⟨m, opens.trans run, complete, ?_⟩
  have first := reports_opened (opening room es).1 (opening room es).2
  rw [parts, len, Moment.reports] at first
  have after : (waiting.map fun x => Turn.ends x.2).flatMap (Turn.reports es) =
      (ending room es).flatMap Execution.after := by
    rw [ended, List.flatMap_map, List.flatMap_map]
    refine List.flatMap_congr fun x mem => ?_
    simp [Turn.reports, sleeping.calls x mem]
  rw [Moment.reports, turns, List.flatMap_append, first, after]
  rfl

end SkillHost.Dispatch
