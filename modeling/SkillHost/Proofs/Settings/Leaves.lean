import SkillHost.Proofs.Settings.Operation
import SkillHost.Settings.Location

/-! Nested chains flattened. A chain finds what its leaves find, read from left to right, and a
location is opened by opening its leaves in that order. -/
namespace SkillHost

namespace Source

mutual

def leaves : Source → List Source
  | memory values => [memory values]
  | dotenv file => [dotenv file]
  | environment => [environment]
  | chain sources => leavesAll sources
  | custom name lookup => [custom name lookup]

def leavesAll : List Source → List Source
  | [] => []
  | source :: rest => source.leaves ++ leavesAll rest

end

theorem leavesAll_eq (sources : List Source) : leavesAll sources = sources.flatMap leaves := by
  induction sources with
  | nil => rfl
  | cons source rest ih => rw [leavesAll, ih, List.flatMap_cons]

/-- The value of a key. An empty one is none. -/
def filled? (env : Environment) (source : Source) (key : Text) : Option Text :=
  (source.get env key).filter fun value => value ≠ []

theorem getNonEmpty_eq_filled? (env : Environment) (source : Source) (key : Text) :
    source.getNonEmpty env key = source.filled? env key := by
  rw [getNonEmpty, filled?]
  congr 1
  funext value
  cases value <;> rfl

def firstValue (env : Environment) (sources : List Source) (key : Text) : Option Text :=
  sources.findSome? fun source => source.filled? env key

theorem firstValue_cons (env : Environment) (source : Source) (rest : List Source) (key : Text) :
    firstValue env (source :: rest) key =
      (source.filled? env key).or (firstValue env rest key) := by
  rw [firstValue, List.findSome?_cons]
  cases source.filled? env key <;> rfl

theorem firstValue_append (env : Environment) (sources more : List Source) (key : Text) :
    firstValue env (sources ++ more) key =
      (firstValue env sources key).or (firstValue env more key) :=
  List.findSome?_append

theorem firstValue_flatMap (env : Environment) (sources : List Source) (f : Source → List Source)
    (key : Text) : firstValue env (sources.flatMap f) key =
      sources.findSome? fun source => firstValue env (f source) key := by
  induction sources with
  | nil => rfl
  | cons source rest ih =>
    rw [List.flatMap_cons, firstValue_append, ih, List.findSome?_cons]
    cases firstValue env (f source) key <;> rfl

theorem ne_nil_of_firstValue {env : Environment} {sources : List Source} {key value : Text}
    (h : firstValue env sources key = some value) : value ≠ [] := by
  obtain ⟨source, -, found⟩ := List.exists_of_findSome?_eq_some h
  exact of_decide_eq_true (Option.filter_eq_some_iff.mp found).2

theorem filter_getFirst (env : Environment) (key : Text) (sources : List Source)
    {empty : Option Text} (h : ∀ value, empty = some value → value = []) :
    ((getFirst env key empty sources).filter fun value => value ≠ []) =
      firstValue env sources key := by
  induction sources generalizing empty with
  | nil =>
    rw [getFirst, Option.filter_eq_none_iff.mpr]
    · rfl
    · intro value kept
      simp [h value kept]
  | cons source rest ih =>
    rw [getFirst, firstValue, List.findSome?_cons, filled?]
    cases source.get env key with
    | none => exact ih h
    | some value =>
      cases value with
      | cons c value => rfl
      | nil =>
        refine ih fun value kept => ?_
        cases empty with
        | none => exact (Option.some.inj kept).symm
        | some earlier => exact h value kept

theorem filled?_chain (env : Environment) (sources : List Source) (key : Text) :
    (chain sources).filled? env key = firstValue env sources key :=
  filter_getFirst env key sources nofun

mutual

theorem filled?_eq (env : Environment) (key : Text) :
    ∀ source : Source, source.filled? env key = firstValue env source.leaves key
  | memory _ | dotenv _ | environment | custom _ _ => by
    rw [leaves, firstValue, List.findSome?_singleton]
  | chain sources => by rw [filled?_chain, leaves, firstValue_eq env key sources]

theorem firstValue_eq (env : Environment) (key : Text) :
    ∀ sources : List Source, firstValue env sources key = firstValue env (leavesAll sources) key
  | [] => rfl
  | source :: rest => by
    rw [leavesAll, firstValue_append, firstValue_cons, filled?_eq env key source,
      firstValue_eq env key rest]

end

end Source

namespace Location

mutual

def leaves : Location → List Location
  | dotenv path => [dotenv path]
  | environment => [environment]
  | source given => [source given]
  | chain locations => leavesAll locations

def leavesAll : List Location → List Location
  | [] => []
  | location :: rest => location.leaves ++ leavesAll rest

end

theorem openSources_append (locations more : List Location) :
    openSources (locations ++ more) = do
      let sources ← openSources locations
      let others ← openSources more
      return sources ++ others := by
  induction locations with
  | nil => simp [openSources]
  | cons location rest ih => simp [openSources, ih]

mutual

theorem openSource_leaves : ∀ location : Location,
    Source.leaves <$> location.openSource =
      List.flatMap Source.leaves <$> openSources location.leaves
  | dotenv _ | environment | source _ => by simp [leaves, openSources]
  | chain locations => by
    rw [leaves, ← openSources_leavesAll locations, openSource]
    simp [Source.leaves, Source.leavesAll_eq]

theorem openSources_leavesAll : ∀ locations : List Location,
    List.flatMap Source.leaves <$> openSources locations =
      List.flatMap Source.leaves <$> openSources (leavesAll locations)
  | [] => rfl
  | location :: rest => by
    have parts (x : Operation Source) (y : Operation (List Source)) :
        (List.flatMap Source.leaves <$> do return (← x) :: (← y)) = do
          return (← Source.leaves <$> x) ++ (← List.flatMap Source.leaves <$> y) := by
      simp
    have joined (x y : Operation (List Source)) :
        (List.flatMap Source.leaves <$> do return (← x) ++ (← y)) = do
          return (← List.flatMap Source.leaves <$> x) ++ (← List.flatMap Source.leaves <$> y) := by
      simp
    rw [openSources, parts, openSource_leaves location, openSources_leavesAll rest, leavesAll,
      openSources_append, joined]

end

theorem exists_leaves {location : Location} {p : Program} {source : Source}
    (opens : (location.openSource p).outcome = .ok source) :
    ∃ sources, (openSources location.leaves p).outcome = .ok sources ∧
      ∀ env key, source.filled? env key = Source.firstValue env sources key := by
  have same := congrArg Logged.outcome (congrFun (openSource_leaves location) p)
  rw [Operation.outcome_map, Operation.outcome_map, opens] at same
  cases h : (openSources location.leaves p).outcome with
  | error e => rw [h] at same; cases same
  | ok sources =>
    rw [h] at same
    refine ⟨sources, rfl, fun env key => ?_⟩
    have leaves : source.leaves = sources.flatMap Source.leaves := Except.ok.inj same
    rw [Source.filled?_eq, leaves, Source.firstValue_flatMap, Source.firstValue]
    simp only [← Source.filled?_eq]

end Location

end SkillHost
