import Mathlib.Data.List.Count
import Mathlib.Data.List.Nodup
import SkillHost.Table

/-! Tables seen through their look-up: what is kept under a key, and how many entries there are. -/
namespace SkillHost.Table
variable {κ α : Type} [DecidableEq κ]

theorem find?_eq_some_iff {entries : List (κ × α)} (distinct : (entries.map Prod.fst).Nodup)
    {k : κ} {a : α} : find? k entries = some a ↔ (k, a) ∈ entries := by
  induction entries with
  | nil => simp [find?]
  | cons e rest ih =>
    obtain ⟨k', a'⟩ := e
    rw [List.map_cons, List.nodup_cons] at distinct
    by_cases h : k' = k
    · have other : (k, a) ∉ rest := fun mem =>
        distinct.1 (List.mem_map.mpr ⟨(k, a), mem, h.symm⟩)
      simp [find?, h, other, eq_comm]
    · simp [find?, h, ih distinct.2, Ne.symm h]

theorem mem_entries_iff (t : Table κ α) {k : κ} {a : α} :
    (k, a) ∈ t.entries ↔ t.get? k = some a :=
  (find?_eq_some_iff t.distinct).symm

theorem contains_iff (t : Table κ α) {k : κ} :
    t.contains k = true ↔ k ∈ t.entries.map Prod.fst := by
  simp [contains, Option.isSome_iff_exists, ← mem_entries_iff]

theorem get?_filter (t : Table κ α) (p : κ → α → Bool) (k : κ) :
    (t.filter p).get? k = (t.get? k).filter (p k) := by
  ext a
  rw [Option.filter_eq_some_iff, ← mem_entries_iff, ← mem_entries_iff]
  simp [filter]

theorem size_erase (t : Table κ α) (k : κ) :
    (t.erase k).size + (if t.contains k then 1 else 0) = t.size := by
  have there : t.entries.countP (fun e => e.1 == k) = if t.contains k then 1 else 0 := by
    have once := List.Nodup.count (a := k) t.distinct
    rw [List.count, List.countP_map] at once
    simp only [contains_iff]
    exact once
  have parts := List.length_eq_length_filter_add (l := t.entries) fun e => e.1 == k
  rw [← List.countP_eq_length_filter, there] at parts
  rw [size, size, parts, Nat.add_comm]
  rfl

theorem size_insert (t : Table κ α) (k : κ) (a : α) :
    (t.insert k a).size + (if t.contains k then 1 else 0) = t.size + 1 := by
  have rest := t.size_erase k
  have first : (t.insert k a).size = (t.erase k).size + 1 := rfl
  omega

end SkillHost.Table
