import Mathlib.Data.List.Nodup
import SkillHost.Environment
import SkillHost.Proofs.Text.Parts

/-! Names that nothing has, and environments that differ in one name only. -/
namespace SkillHost.Environment

theorem lookup_of_zero {name : Text} (h : '\x00' ∈ name) (env : Environment) :
    env.lookup name = none := by
  simp [lookup, h]

def given? (name : Text) (v : Text × Content) : Option Text :=
  v.2.text?.bind fun value => Text.afterStart? (name ++ ['=']) (v.1 ++ '=' :: value)

theorem lookup_eq (env : Environment) {name : Text} (ne : name ≠ []) (zero : '\x00' ∉ name) :
    env.lookup name = env.bindings.entries.findSome? (given? name) := by
  rw [lookup, if_neg (by simp [ne, zero])]
  rfl

theorem given?_eq_some_iff {name other value rest : Text} :
    given? name (other, .text value) = some rest ↔
      other ++ '=' :: value = name ++ '=' :: rest := by
  rw [given?, Content.text?, Option.bind_some, Text.afterStart?_eq_some_iff]
  simp

def beforeEquals : Text → List Text
  | [] => []
  | c :: rest => (if c = '=' then [[]] else []) ++ (beforeEquals rest).map (c :: ·)

theorem mem_beforeEquals {name k : Text} : k ∈ beforeEquals name ↔ k ++ ['='] <+: name := by
  induction name generalizing k with
  | nil => simp [beforeEquals]
  | cons c rest ih =>
    cases k with
    | nil =>
      by_cases h : c = '='
      · simp [beforeEquals, h]
      · simp [beforeEquals, h, Ne.symm h]
    | cons a k =>
      have later : a :: k ∈ (if c = '=' then [[]] else []) ++ (beforeEquals rest).map (c :: ·) ↔
          c = a ∧ k ∈ beforeEquals rest := by
        split <;> simp [and_comm]
      rw [beforeEquals, later, ih, List.cons_append, List.cons_prefix_cons, eq_comm]

theorem nodup_beforeEquals (name : Text) : (beforeEquals name).Nodup := by
  induction name with
  | nil => exact List.nodup_nil
  | cons c rest ih =>
    have later : ((beforeEquals rest).map (c :: ·)).Nodup := ih.map fun _ _ h => (List.cons.inj h).2
    rw [beforeEquals]
    split
    · rw [List.singleton_append, List.nodup_cons]
      exact ⟨by simp, later⟩
    · exact later

theorem not_mem_beforeEquals (name : Text) : name ∉ beforeEquals name := by
  intro h
  have := (mem_beforeEquals.mp h).length_le
  rw [List.length_append, List.length_singleton] at this
  omega

/-- Empty variables for all that stands before the equals signs of a name: they leave the name
itself free, and nothing shorter is found in a variable of that name. -/
def shadow (name : Text) : List (Text × Content) := (beforeEquals name).map fun k => (k, .text [])

theorem keys_shadow (name : Text) : (shadow name).map Prod.fst = beforeEquals name := by
  simp [shadow, Function.comp_def]

theorem findSome?_shadow_self (name : Text) : (shadow name).findSome? (given? name) = none := by
  rw [List.findSome?_eq_none_iff]
  intro v hv
  obtain ⟨k, hk, rfl⟩ := List.mem_map.mp hv
  rw [Option.eq_none_iff_forall_ne_some]
  intro rest found
  have longer := (mem_beforeEquals.mp hk).length_le
  have same := congrArg List.length (given?_eq_some_iff.mp found)
  simp at longer same
  omega

theorem exists_findSome?_shadow {name other : Text} (h : other ∈ beforeEquals name) :
    ∃ value, (shadow name).findSome? (given? other) = some value := by
  rw [← Option.isSome_iff_exists, List.findSome?_isSome_iff]
  refine ⟨(other, .text []), List.mem_map.mpr ⟨other, h, rfl⟩, ?_⟩
  rw [Option.isSome_iff_exists]
  exact ⟨[], given?_eq_some_iff.mpr rfl⟩

theorem given?_of_not_mem_beforeEquals {name other value : Text} (equals : '=' ∉ value)
    (h : other ∉ beforeEquals name) (ne : other ≠ name) :
    given? other (name, .text value) = none := by
  rw [Option.eq_none_iff_forall_ne_some]
  intro rest found
  rcases List.append_eq_append_iff.mp (given?_eq_some_iff.mp found) with
    ⟨more, hother, hvalue⟩ | ⟨more, hname, hrest⟩
  · cases more with
    | nil => exact ne (by simpa using hother)
    | cons c more =>
      have held : '=' ∈ value := by
        rw [(List.cons.inj hvalue).2]
        exact List.mem_append_right more List.mem_cons_self
      exact equals held
  · cases more with
    | nil => exact ne (by simpa using hname.symm)
    | cons c more =>
      obtain ⟨rfl, -⟩ := List.cons.inj hrest
      exact h (mem_beforeEquals.mpr ⟨more, by simp [hname]⟩)

theorem exists_differing {name : Text} (ne : name ≠ []) (zero : '\x00' ∉ name) :
    ∃ env : Environment, env.lookup name = none ∧ ∀ value : Text, '=' ∉ value →
      ∃ env' : Environment, env'.lookup name = some value ∧
        ∀ other, other ≠ name → env.lookup other = env'.lookup other := by
  have distinct (content : Content) : ((shadow name ++ [(name, content)]).map Prod.fst).Nodup := by
    rw [List.map_append, keys_shadow, List.map_singleton, List.nodup_append_comm,
      List.singleton_append, List.nodup_cons]
    exact ⟨not_mem_beforeEquals name, nodup_beforeEquals name⟩
  -- With the shadow in both environments a variable of that name gives nothing to another name.
  refine ⟨⟨shadow name, keys_shadow name ▸ nodup_beforeEquals name⟩, ?_, fun value equals =>
    ⟨⟨shadow name ++ [(name, .text value)], distinct _⟩, ?_, ?_⟩⟩
  · rw [lookup_eq _ ne zero]
    exact findSome?_shadow_self name
  · have given : given? name (name, .text value) = some value := given?_eq_some_iff.mpr rfl
    rw [lookup_eq _ ne zero, List.findSome?_append, findSome?_shadow_self name]
    simp [given]
  · intro other differs
    by_cases empty : other = []
    · rw [empty, lookup_nil, lookup_nil]
    by_cases zero' : '\x00' ∈ other
    · rw [lookup_of_zero zero', lookup_of_zero zero']
    rw [lookup_eq _ empty zero', lookup_eq _ empty zero', List.findSome?_append]
    by_cases h : other ∈ beforeEquals name
    · obtain ⟨found, hfound⟩ := exists_findSome?_shadow h
      rw [hfound]
      rfl
    · have none := given?_of_not_mem_beforeEquals equals h differs
      simp [none]

end SkillHost.Environment
