import SkillHost.Proofs.Settings.Leaves

/-! Layers of settings. What a chain finds for a key is what its leaves hold, laid one over the
other: a value hides all that lies under it, an empty one hides only that nothing is there. Laying
over is associative, so how the leaves are grouped into chains does not matter. -/
namespace SkillHost.Source

/-- What is found of two layers, the first over the second. -/
def overlay : Option Text → Option Text → Option Text
  | none, below => below
  | some [], below => some (below.getD [])
  | some (c :: value), _ => some (c :: value)

@[simp] theorem none_overlay (below : Option Text) : overlay none below = below := rfl

@[simp] theorem overlay_none (above : Option Text) : overlay above none = above := by
  rcases above with _ | _ | _ <;> rfl

theorem overlay_assoc (a b c : Option Text) : overlay (overlay a b) c = overlay a (overlay b c) := by
  rcases a with _ | _ | _
  · rfl
  · rcases b with _ | _ | _ <;> rfl
  · rfl

def layered (layers : List (Option Text)) : Option Text := layers.foldr overlay none

theorem layered_cons (top : Option Text) (layers : List (Option Text)) :
    layered (top :: layers) = overlay top (layered layers) := rfl

theorem layered_append (layers more : List (Option Text)) :
    layered (layers ++ more) = overlay (layered layers) (layered more) := by
  induction layers with
  | nil => rfl
  | cons top layers ih => rw [List.cons_append, layered_cons, layered_cons, ih, overlay_assoc]

theorem layered_eq (layers : List (Option Text)) :
    layered layers = (layers.findSome? fun layer => layer.filter fun value => value ≠ []).or
      (if some [] ∈ layers then some [] else none) := by
  induction layers with
  | nil => rfl
  | cons top layers ih =>
    rw [layered_cons, ih, List.findSome?_cons]
    match top with
    | none => simp
    | some [] =>
      rw [Option.filter_some]
      cases layers.findSome? fun layer => layer.filter fun value => value ≠ [] with
      | none => by_cases h : some [] ∈ layers <;> simp [overlay, h]
      | some value => simp [overlay]
    | some (c :: value) =>
      rw [Option.filter_some]
      simp [overlay]

theorem layered_eq_none_iff {layers : List (Option Text)} :
    layered layers = none ↔ ∀ layer ∈ layers, layer = none := by
  induction layers with
  | nil => simp [layered]
  | cons top layers ih =>
    rw [layered_cons, List.forall_mem_cons, ← ih]
    match top with
    | none => simp
    | some [] => simp [overlay]
    | some (c :: value) => simp [overlay]

section
variable (env : Environment) (key : Text)

theorem getFirst_eq (sources : List Source) {empty : Option Text}
    (h : ∀ value ∈ empty, value = []) :
    getFirst env key empty sources = overlay empty (layered (sources.map (get env key))) := by
  induction sources generalizing empty with
  | nil => exact (overlay_none empty).symm
  | cons source rest ih =>
    rw [getFirst, List.map_cons, layered_cons, ← overlay_assoc]
    have kept : empty = none ∨ empty = some [] := by
      cases empty with
      | none => exact .inl rfl
      | some value => exact .inr (congrArg some (h value rfl))
    rcases kept with rfl | rfl <;> rcases source.get env key with _ | _ | _ <;> simp [ih, overlay]

mutual

theorem get_eq : ∀ source : Source,
    source.get env key = layered (source.leaves.map (get env key))
  | memory _ | dotenv _ | environment | custom _ _ => by
    rw [leaves, List.map_singleton, layered_cons]
    exact (overlay_none _).symm
  | chain sources => by
    rw [get, getFirst_eq env key sources (by simp), none_overlay, leaves,
      layered_map_eq sources]

theorem layered_map_eq : ∀ sources : List Source,
    layered (sources.map (get env key)) = layered ((leavesAll sources).map (get env key))
  | [] => rfl
  | source :: rest => by
    rw [List.map_cons, layered_cons, leavesAll, List.map_append, layered_append, get_eq source,
      layered_map_eq rest]

end

end

/-- The same leaves in other chains: a chain among sources gives way to the sources in it, of which
there may be none, and a chain of one source to that source. -/
inductive Regrouped : Source → Source → Prop where
  | refl (source : Source) : Regrouped source source
  | symm {source other : Source} : Regrouped source other → Regrouped other source
  | trans {source other third : Source} :
    Regrouped source other → Regrouped other third → Regrouped source third
  | inside {source other : Source} (before after : List Source) : Regrouped source other →
    Regrouped (chain (before ++ source :: after)) (chain (before ++ other :: after))
  | flatten (before inner after : List Source) :
    Regrouped (chain (before ++ chain inner :: after)) (chain (before ++ inner ++ after))
  | single (source : Source) : Regrouped (chain [source]) source

theorem Regrouped.leaves_eq {source other : Source} (h : Regrouped source other) :
    source.leaves = other.leaves := by
  induction h with
  | refl source => rfl
  | symm _ ih => exact ih.symm
  | trans _ _ ih ih' => exact ih.trans ih'
  | inside before after _ ih => simp [leaves, leavesAll_eq, ih]
  | flatten before inner after => simp [leaves, leavesAll_eq]
  | single source => simp [leaves, leavesAll_eq]

mutual

theorem regrouped_leaves : ∀ source : Source, Regrouped source (chain source.leaves)
  | memory _ | dotenv _ | environment | custom _ _ => .symm (.single _)
  | chain sources => regrouped_leavesAll sources []

theorem regrouped_leavesAll : ∀ sources before : List Source,
    Regrouped (chain (before ++ sources)) (chain (before ++ leavesAll sources))
  | [], _ => .refl _
  | source :: rest, before => by
    have first := Regrouped.inside before rest (regrouped_leaves source)
    have flat := Regrouped.flatten before source.leaves rest
    have later := regrouped_leavesAll rest (before ++ source.leaves)
    rw [leavesAll, ← List.append_assoc]
    exact first.trans (flat.trans later)

end

theorem regrouped_iff {source other : Source} :
    Regrouped source other ↔ source.leaves = other.leaves := by
  constructor
  · exact Regrouped.leaves_eq
  · intro same
    have flat := regrouped_leaves source
    rw [same] at flat
    exact flat.trans (regrouped_leaves other).symm

theorem get_of_regrouped {source other : Source} (h : Regrouped source other) (env : Environment)
    (key : Text) : other.get env key = source.get env key := by
  rw [get_eq env key other, get_eq env key source, regrouped_iff.mp h]

theorem has_eq_true_iff {env : Environment} {source : Source} {key : Text} :
    source.has env key = true ↔ ∃ value, source.getNonEmpty env key = some value := by
  rw [has, Option.isSome_iff_exists]

theorem getNonEmpty_of_first {env : Environment} {key : Text} {before after : List Source}
    {source : Source} (found : source.has env key = true)
    (first : ∀ earlier ∈ before, earlier.has env key = false) :
    source.getNonEmpty env key = (chain (before ++ source :: after)).getNonEmpty env key := by
  have nothing : firstValue env before key = none := by
    rw [firstValue, List.findSome?_eq_none_iff]
    intro earlier mem
    have absent := first earlier mem
    rwa [has, getNonEmpty_eq_filled?, Option.isSome_eq_false_iff, Option.isNone_iff_eq_none] at absent
  obtain ⟨value, hvalue⟩ := has_eq_true_iff.mp found
  rw [getNonEmpty_eq_filled?] at hvalue ⊢
  rw [getNonEmpty_eq_filled?, filled?_chain, firstValue_append, firstValue_cons, nothing, hvalue]
  rfl

theorem get_eq_or (env : Environment) (key : Text) (source : Source) :
    source.get env key = (firstValue env source.leaves key).or
      (if some [] ∈ source.leaves.map (get env key) then some [] else none) := by
  rw [get_eq, layered_eq, List.findSome?_map]
  rfl

theorem get_eq_some_iff {env : Environment} {key value : Text} {source : Source}
    (ne : value ≠ []) : source.get env key = some value ↔
      firstValue env source.leaves key = some value := by
  rw [get_eq_or]
  cases firstValue env source.leaves key with
  | some other => rfl
  | none =>
    rw [Option.none_or]
    split <;> simp [Ne.symm ne]

theorem get_eq_empty_iff {env : Environment} {key : Text} {source : Source} :
    source.get env key = some [] ↔ firstValue env source.leaves key = none ∧
      ∃ leaf ∈ source.leaves, leaf.get env key = some [] := by
  rw [get_eq_or, ← List.mem_map]
  cases first : firstValue env source.leaves key with
  | some value => simp [ne_nil_of_firstValue first]
  | none => simp

theorem get_eq_none_iff {env : Environment} {key : Text} {source : Source} :
    source.get env key = none ↔ ∀ leaf ∈ source.leaves, leaf.get env key = none := by
  rw [get_eq, layered_eq_none_iff, List.forall_mem_map]

theorem isSome_findSource (env : Environment) (sources : List Source) (key : Text) :
    (findSource env sources key).isSome = (chain sources).has env key := by
  rw [has, getNonEmpty_eq_filled?, filled?_chain, Bool.eq_iff_iff, findSource, List.find?_isSome,
    firstValue, List.findSome?_isSome_iff]
  simp only [has, getNonEmpty_eq_filled?]

theorem exists_of_findSource {env : Environment} {sources : List Source} {key : Text}
    {child : Source} (h : findSource env sources key = some child) :
    ∃ before after, sources = before ++ child :: after ∧ child.has env key = true ∧
      (∀ earlier ∈ before, earlier.has env key = false) ∧
      findIndex env sources key = some before.length := by
  obtain ⟨found, before, after, rfl, first⟩ := List.find?_eq_some_iff_append.mp h
  have absent : ∀ earlier ∈ before, earlier.has env key = false := by simpa using first
  refine ⟨before, after, rfl, found, absent, ?_⟩
  have none : before.findIdx? (fun source => source.has env key) = none :=
    List.findIdx?_eq_none_iff.mpr absent
  rw [findIndex, List.findIdx?_append, none, List.findIdx?_cons, found]
  simp

structure FallsBack (env : Environment) (key : Text) (source : Source) : Prop where
  value : ∀ value, value ≠ [] →
    (source.get env key = some value ↔ firstValue env source.leaves key = some value)
  empty : source.get env key = some [] ↔ firstValue env source.leaves key = none ∧
    ∃ leaf ∈ source.leaves, leaf.get env key = some []
  absent : source.get env key = none ↔ ∀ leaf ∈ source.leaves, leaf.get env key = none
  nonEmpty : source.getNonEmpty env key = firstValue env source.leaves key
  has : source.has env key = (firstValue env source.leaves key).isSome
  regrouped : ∀ other, Regrouped source other → other.get env key = source.get env key ∧
    other.getNonEmpty env key = source.getNonEmpty env key ∧
    other.has env key = source.has env key
  found : ∀ sources, source = chain sources →
    (findSource env sources key).isSome = source.has env key
  first : ∀ sources child, source = chain sources → findSource env sources key = some child →
    child.getNonEmpty env key = source.getNonEmpty env key ∧
    ∃ before after, sources = before ++ child :: after ∧ child.has env key = true ∧
      (∀ earlier ∈ before, earlier.has env key = false) ∧
      findIndex env sources key = some before.length

/-- Lookup falls back over the leaves, and a chain can tell which of its sources it finds. -/
theorem fallsBack (env : Environment) (key : Text) (source : Source) :
    source.FallsBack env key where
  value _ ne := get_eq_some_iff ne
  empty := get_eq_empty_iff
  absent := get_eq_none_iff
  nonEmpty := by rw [getNonEmpty_eq_filled?, filled?_eq]
  has := by rw [has, getNonEmpty_eq_filled?, filled?_eq]
  regrouped other same := by
    have equal := get_of_regrouped same env key
    refine ⟨equal, ?_, ?_⟩
    · rw [getNonEmpty, equal, getNonEmpty]
    · rw [has, getNonEmpty, equal, has, getNonEmpty]
  found sources chained := by rw [chained, isSome_findSource]
  first sources child chained h := by
    obtain ⟨before, after, parts, found, first, index⟩ := exists_of_findSource h
    refine ⟨?_, before, after, parts, found, first, index⟩
    rw [chained, parts, getNonEmpty_of_first found first]

end SkillHost.Source
