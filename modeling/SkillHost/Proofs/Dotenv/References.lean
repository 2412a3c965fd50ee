import Mathlib.Data.List.Induction
import SkillHost.Dotenv.Parsed
import SkillHost.Proofs.Dotenv.Heads
import SkillHost.Proofs.Dotenv.ValueSteps

/-! The names that the value of a statement refers to. Nothing else about the environment matters:
two environments that agree on them lead to the same values. -/
namespace SkillHost.Dotenv

namespace ValueScan

def refers : ValueScan → Bool
  | reference _ _ | braced _ _ => true
  | _ => false

theorem closed?_of_not_refers {s : ValueScan} (h : s.refers = false) (c : Char) :
    s.closed? c = none := by
  cases s with
  | reference quoted name => cases h
  | braced quoted name => cases h
  | text quoted => rfl
  | escape quoted => rfl
  | single => rfl
  | ending => rfl

theorem exists_next?_of_refers {s : ValueScan} {c : Char} (h : s.refers = true)
    (closed : s.closed? c = none) : ∃ s', s.next? c = some s' ∧ s'.refers = true := by
  cases s with
  | reference quoted name =>
    refine ⟨_, rfl, ?_⟩
    simp only [closed?, ite_eq_left_iff, reduceCtorEq, imp_false, not_not] at closed
    rcases closed with alphanumeric | ⟨rfl, rfl⟩
    · simp [alphanumeric, refers]
    · split <;> rfl
  | braced quoted name =>
    refine ⟨_, rfl, ?_⟩
    have open_ : c ≠ '}' := by
      rintro rfl
      simp [closed?] at closed
    simp [open_, refers]
  | text quoted => cases h
  | escape quoted => cases h
  | single => cases h
  | ending => cases h

theorem closedBy_append (s : ValueScan) (x y : Text) :
    s.closedBy (x ++ y) =
      s.closedBy x ++ ((s.after? x).map fun s' => s'.closedBy y).getD [] := by
  induction x generalizing s with
  | nil => rfl
  | cons c rest ih =>
    rw [List.cons_append, closedBy, closedBy, after?_cons]
    cases next : s.next? c with
    | none => simp
    | some s' => simp [ih]

theorem closedBy_concat (s : ValueScan) (x : Text) (c : Char) :
    s.closedBy (x ++ [c]) =
      s.closedBy x ++ ((s.after? x).bind fun s' => s'.closed? c).toList := by
  rw [closedBy_append]
  congr 1
  cases s.after? x with
  | none => rfl
  | some s' => cases next : s'.next? c <;> simp [closedBy, next]

theorem exists_after?_of_refers {s : ValueScan} {t : Text} (h : s.refers = true)
    (closed : s.closedBy t = []) : ∃ s', s.after? t = some s' ∧ s'.refers = true := by
  induction t generalizing s with
  | nil => exact ⟨s, rfl, h⟩
  | cons c rest ih =>
    rw [closedBy, List.append_eq_nil_iff, Option.toList_eq_nil_iff] at closed
    obtain ⟨s₁, next, inside⟩ := exists_next?_of_refers h closed.1
    have later : s₁.closedBy rest = [] := by simpa [next] using closed.2
    obtain ⟨s', after, refers⟩ := ih inside later
    exact ⟨s', by rw [after?_cons, next, Option.bind_some, after], refers⟩

end ValueScan

namespace Statement

def value? : Statement → Option Text
  | whole t => (readHead? (Text.trim t)).bind fun (_, rest) =>
    if isVoid (Text.trimStart rest) then none else some (Text.trimStart rest)
  | unfinished _ => none

def names (s : Statement) : List Text := (s.value?.map (ValueScan.text false).names).getD []

def Refers (s : Statement) : Prop :=
  ∃ value x state, s.value? = some value ∧ x <+: value ∧
    (ValueScan.text false).after? x = some state ∧ state.refers = true

theorem read_congr {s : Statement} {expand expand' : Text → Text}
    (h : ∀ name ∈ s.names, expand name = expand' name) : s.read expand = s.read expand' := by
  cases s with
  | unfinished t => rfl
  | whole t =>
    cases head : readHead? (Text.trim t) with
    | none => simp [read, Reading.ofText, head]
    | some found =>
      obtain ⟨key, rest⟩ := found
      have assigns : (whole t).Assigns key rest := assigns_iff.mpr head
      rw [read_of_assigns assigns, read_of_assigns assigns, Reading.ofValue, Reading.ofValue]
      split
      · rfl
      · rename_i void
        have same : readValue expand (Text.trimStart rest) =
            readValue expand' (Text.trimStart rest) := by
          apply readValueFrom_congr
          simpa [names, value?, head, void] using h
        rw [same]

theorem names_of_not_refers {s : Statement} (h : ¬s.Refers) : s.names = [] := by
  cases hvalue : s.value? with
  | none => simp [names, hvalue]
  | some value =>
    have outside : ∀ x state, x <+: value → (ValueScan.text false).after? x = some state →
        state.refers = false := by
      intro x state before next
      rw [Bool.eq_false_iff]
      exact fun refers => h ⟨value, x, state, hvalue, before, next, refers⟩
    have closed : ∀ x, x <+: value → (ValueScan.text false).closedBy x = [] := by
      intro x
      induction x using List.reverseRecOn with
      | nil => exact fun _ => rfl
      | append_singleton x c ih =>
        intro before
        have before' := (List.prefix_append x [c]).trans before
        rw [ValueScan.closedBy_concat, ih before', List.nil_append]
        cases next : (ValueScan.text false).after? x with
        | none => rfl
        | some state =>
          rw [Option.bind_some, ValueScan.closed?_of_not_refers (outside x state before' next)]
          rfl
    have last : ((ValueScan.text false).after? value).bind ValueScan.lastName? = none := by
      cases next : (ValueScan.text false).after? value with
      | none => rfl
      | some state =>
        have := outside value state List.prefix_rfl next
        cases state with
        | reference quoted name => cases this
        | text quoted => rfl
        | escape quoted => rfl
        | single => rfl
        | braced quoted name => rfl
        | ending => rfl
    simp [names, hvalue, ValueScan.names, closed value List.prefix_rfl, last]

theorem read_of_not_refers {s : Statement} (h : ¬s.Refers) (expand expand' : Text → Text) :
    s.read expand = s.read expand' := by
  apply read_congr
  simp [names_of_not_refers h]

end Statement

theorem Parsed.foldl_handle_congr {env env' : Environment} {statements : List Statement}
    (h : ∀ s ∈ statements, ∀ name ∈ s.names, env.lookup name = env'.lookup name) (parsed : Parsed) :
    statements.foldl (handle env) parsed = statements.foldl (handle env') parsed := by
  induction statements generalizing parsed with
  | nil => rfl
  | cons s rest ih =>
    have same : handle env parsed s = handle env' parsed s := by
      rw [handle, handle, Statement.read_congr]
      intro name hname
      rw [expand, expand, h s List.mem_cons_self name hname]
    rw [List.foldl_cons, List.foldl_cons, same,
      ih fun s hs => h s (List.mem_cons_of_mem _ hs)]

end SkillHost.Dotenv
