import SkillHost.Proofs.Skill.Rounds

/-! Calls of a registry that run at once. Each gives what it gives alone and reports what it reports
alone, in its own order; together they take as long as the longest of them. -/
namespace SkillHost
open Schedule

/-- Where a report of a call comes from: the registry, which reports that it invokes a function and
that a call has failed, or the function. -/
inductive Origin where
  | invoking
  | function
  | failure
  deriving DecidableEq

namespace Registry

def toldBefore (r : Registry) (call : FunctionCall) : List (Origin × Report) :=
  match r.get? call.skill call.function with
  | none => []
  | some f =>
    (.invoking, r.report .debug ("Invoking ".toList ++ call.qualifiedName)) ::
      (f.run call.input).entries.map fun e => (.function, .entry e)

def toldAfter (r : Registry) (call : FunctionCall) : List (Origin × Report) :=
  let result := (r.invokeCall call).value
  if result.isError then
    [(.failure, r.report .error (call.qualifiedName ++ " failed: ".toList ++ result.content))]
  else []

def told (r : Registry) (call : FunctionCall) : List (Origin × Report) :=
  r.toldBefore call ++ r.toldAfter call

theorem before_invokeCall (r : Registry) (call : FunctionCall) :
    (r.invokeCall call).before = (r.invoke call.skill call.function call.input).before := by
  rw [invokeCall]
  split <;> rfl

theorem map_toldBefore (r : Registry) (call : FunctionCall) :
    (r.toldBefore call).map Prod.snd = (r.invokeCall call).before := by
  rw [before_invokeCall, invoke, toldBefore]
  cases r.get? call.skill call.function with
  | none => rfl
  | some f =>
    simp only [List.map_cons, List.map_map]
    rfl

theorem after_invoke (r : Registry) (skill function input : Text) :
    (r.invoke skill function input).after = [] := by
  rw [invoke]
  split <;> rfl

theorem map_toldAfter (r : Registry) (call : FunctionCall) :
    (r.toldAfter call).map Prod.snd = (r.invokeCall call).after := by
  rw [toldAfter, invokeCall]
  split <;> simp [after_invoke]

theorem map_told (r : Registry) (call : FunctionCall) :
    (r.told call).map Prod.snd = (r.invokeCall call).reports := by
  rw [told, List.map_append, map_toldBefore, map_toldAfter, Execution.reports]

theorem filter_invoking_toldBefore (r : Registry) (call : FunctionCall) :
    ((r.toldBefore call).filter fun l => l.1 = .invoking).length ≤ 1 := by
  rw [toldBefore]
  split
  · exact Nat.zero_le _
  · simp

theorem filter_invoking_toldAfter (r : Registry) (call : FunctionCall) :
    (r.toldAfter call).filter (fun l => l.1 = .invoking) = [] := by
  rw [toldAfter]
  split <;> rfl

theorem filter_failure_told (r : Registry) (call : FunctionCall) :
    (r.told call).filter (fun l => l.1 = .failure) = r.toldAfter call := by
  have before : (r.toldBefore call).filter (fun l => l.1 = .failure) = [] := by
    rw [toldBefore]
    split <;> simp
  rw [told, List.filter_append, before, List.nil_append, toldAfter]
  split <;> rfl

def toldIn (r : Registry) (calls : List FunctionCall) (t : Turn) : List (Nat × Origin × Report) :=
  match t with
  | .begins i => ((calls[i]?.map r.toldBefore).getD []).map fun l => (i, l)
  | .ends i => ((calls[i]?.map r.toldAfter).getD []).map fun l => (i, l)

theorem fst_of_mem_toldIn {r : Registry} {calls : List FunctionCall} {t : Turn}
    {l : Nat × Origin × Report} (mem : l ∈ r.toldIn calls t) : l.1 = t.call := by
  cases t with
  | begins i | ends i =>
    obtain ⟨_, _, rfl⟩ := List.mem_map.mp mem
    rfl

theorem map_toldIn (r : Registry) (calls : List FunctionCall) (t : Turn) :
    (r.toldIn calls t).map (fun l => l.2.2) = t.reports (calls.map r.invokeCall) := by
  cases t with
  | begins i =>
    rw [toldIn, Turn.reports, List.getElem?_map, List.map_map]
    cases calls[i]? with
    | none => rfl
    | some call => exact r.map_toldBefore call
  | ends i =>
    rw [toldIn, Turn.reports, List.getElem?_map, List.map_map]
    cases calls[i]? with
    | none => rfl
    | some call => exact r.map_toldAfter call

theorem filter_toldIn (r : Registry) (calls : List FunctionCall) (i : Nat) (turns : List Turn) :
    (turns.flatMap (r.toldIn calls)).filter (fun l => l.1 = i) =
      (turns.filter fun t => t.call = i).flatMap (r.toldIn calls) := by
  induction turns with
  | nil => rfl
  | cons t rest ih =>
    rw [List.flatMap_cons, List.filter_append, ih, List.filter_cons]
    by_cases own : t.call = i
    · have all : (r.toldIn calls t).filter (fun l => l.1 = i) = r.toldIn calls t :=
        List.filter_eq_self.mpr fun l mem => decide_eq_true ((fst_of_mem_toldIn mem).trans own)
      rw [all, if_pos (decide_eq_true own), List.flatMap_cons]
    · have none : (r.toldIn calls t).filter (fun l => l.1 = i) = [] :=
        List.filter_eq_nil_iff.mpr fun l mem same =>
          own ((fst_of_mem_toldIn mem).symm.trans (of_decide_eq_true same))
      rw [none, if_neg (by simpa using own), List.nil_append]

theorem map_fst_invoking (i : Nat) (told : List (Origin × Report)) :
    ((told.map fun l => (i, l)).filter fun l => l.2.1 = .invoking).map Prod.fst =
      List.replicate (told.filter fun l => l.1 = .invoking).length i := by
  rw [List.filter_map, List.map_map]
  exact List.map_const' ..

theorem invoking_toldIn_sublist (r : Registry) (calls : List FunctionCall) (t : Turn) :
    (((r.toldIn calls t).filter fun l => l.2.1 = .invoking).map Prod.fst).Sublist
      t.begun?.toList := by
  cases t with
  | begins i =>
    rw [toldIn, map_fst_invoking]
    cases calls[i]? with
    | none => exact List.nil_sublist _
    | some call => exact (List.replicate_sublist_replicate i).mpr (r.filter_invoking_toldBefore call)
  | ends i =>
    rw [toldIn, map_fst_invoking]
    cases calls[i]? with
    | none => exact List.nil_sublist _
    | some call =>
      rw [Option.map_some, Option.getD_some, filter_invoking_toldAfter]
      exact List.nil_sublist _

theorem invoking_sublist (r : Registry) (calls : List FunctionCall) (turns : List Turn) :
    (((turns.flatMap (r.toldIn calls)).filter fun l => l.2.1 = .invoking).map Prod.fst).Sublist
      (turns.filterMap Turn.begun?) := by
  induction turns with
  | nil => exact .slnil
  | cons t rest ih =>
    have split : (t :: rest).filterMap Turn.begun? =
        t.begun?.toList ++ rest.filterMap Turn.begun? := by
      rw [List.filterMap_cons]
      cases t.begun? <;> rfl
    rw [List.flatMap_cons, List.filter_append, List.map_append, split]
    exact (r.invoking_toldIn_sublist calls t).append ih

end Registry

structure Interleaves (r : Registry) (calls : List FunctionCall)
    (lines : List (Nat × Origin × Report)) : Prop where
  /-- Each call reports what it reports alone, in its own order. -/
  own : ∀ (i : Nat) (call : FunctionCall), calls[i]? = some call →
    (lines.filter fun l => l.1 = i).map Prod.snd = r.told call ∧
      (r.told call).map Prod.snd = (r.invokeCall call).reports
  known : ∀ l ∈ lines, l.1 < calls.length
  invoking : ((lines.filter fun l => l.2.1 = .invoking).map Prod.fst).Pairwise (· < ·)
  failure : ∀ (i : Nat) (call : FunctionCall), calls[i]? = some call →
    (lines.filter fun l => l.2.1 = .failure ∧ l.1 = i).length =
      if (r.invokeCall call).value.isError then 1 else 0

theorem interleaves_of_complete (r : Registry) {calls : List FunctionCall}
    {m : Moment FunctionResult} (run : Reaches (calls.map r.invokeCall) .start m)
    (complete : m.Complete (calls.map r.invokeCall)) :
    Interleaves r calls (m.turns.flatMap (r.toldIn calls)) := by
  have own (i : Nat) (call : FunctionCall) (found : calls[i]? = some call) :
      ((m.turns.flatMap (r.toldIn calls)).filter fun l => l.1 = i).map Prod.snd = r.told call := by
    have found' : (calls.map r.invokeCall)[i]? = some (r.invokeCall call) := by
      rw [List.getElem?_map, found, Option.map_some]
    have turns := (complete_each run complete found').2.2
    rw [Registry.filter_toldIn, turns]
    simp [Registry.toldIn, found, Registry.told, Function.comp_def]
  refine ⟨fun i call found => ⟨own i call found, r.map_told call⟩, fun l mem => ?_, ?_,
    fun i call found => ?_⟩
  · obtain ⟨t, turn, line⟩ := List.mem_flatMap.mp mem
    rw [Registry.fst_of_mem_toldIn line]
    simpa using (Sound.run run).calls t turn
  · have sub := r.invoking_sublist calls m.turns
    rw [complete_begun run complete] at sub
    exact List.pairwise_lt_range.sublist sub
  · have failed := congrArg List.length (r.filter_failure_told call)
    rw [← own i call found, List.filter_map, List.length_map, List.filter_filter] at failed
    simp only [Function.comp_apply, ← Bool.decide_and] at failed
    rw [failed, Registry.toldAfter]
    split <;> rfl

structure Overlaps (r : Registry) (calls : List FunctionCall) (d : Dispatched FunctionResult) :
    Prop where
  values : d.values = calls.map fun call => (r.invokeCall call).value
  reports : ∃ lines : List (Nat × Origin × Report),
    lines.map (fun l => l.2.2) = d.reports ∧ Interleaves r calls lines
  time : d.time = ((calls.map fun call => (r.invokeCall call).time).max?).getD 0
  /-- All this happens in a run in which calls take turns, and time passes only when no call has
  anything else to do. -/
  run : ∃ m, Reaches (calls.map r.invokeCall) .start m ∧ m.Complete (calls.map r.invokeCall) ∧
    (∀ (i : Nat) (value : FunctionResult), d.values[i]? = some value → m.stage i = .ended value) ∧
      m.reports (calls.map r.invokeCall) = d.reports ∧ m.clock = d.time

theorem time_dispatch {α : Type} (room : Nat) (es : List (Execution α)) :
    (dispatch room es).time = ((es.map Execution.time).max?).getD 0 := by
  rw [dispatch, ← List.foldl_map, List.foldl_max, Nat.zero_max]

/-- Calls that run at once do what they do alone. -/
theorem Registry.overlaps_invokeCalls (r : Registry) (room : Nat) (calls : List FunctionCall) :
    Overlaps r calls (r.invokeCalls room calls) := by
  obtain ⟨m, run, complete, reports⟩ := Dispatch.exists_run room (calls.map r.invokeCall)
  have values : (r.invokeCalls room calls).values =
      calls.map fun call => (r.invokeCall call).value := by
    rw [invokeCalls, dispatch, List.map_map]
    rfl
  have time : (r.invokeCalls room calls).time =
      ((calls.map fun call => (r.invokeCall call).time).max?).getD 0 := by
    rw [invokeCalls, time_dispatch, List.map_map]
    rfl
  have clock : m.clock = (r.invokeCalls room calls).time := by
    rw [complete_clock run complete, time, List.map_map]
    rfl
  refine ⟨values, ⟨m.turns.flatMap (r.toldIn calls), ?_, interleaves_of_complete r run complete⟩,
    time, m, run, complete, fun i value found => ?_, reports, clock⟩
  · rw [List.map_flatMap, List.flatMap_congr fun t _ => r.map_toldIn calls t]
    exact reports
  · rw [values, List.getElem?_map, Option.map_eq_some_iff] at found
    obtain ⟨call, found, rfl⟩ := found
    exact (complete_each run complete (by rw [List.getElem?_map, found, Option.map_some])).1

end SkillHost
