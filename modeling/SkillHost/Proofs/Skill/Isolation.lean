import SkillHost.Proofs.Skill.Accounts
import SkillHost.Proofs.Text.Lowercase
import SkillHost.Skill.Dispatch

/-! How far skills are kept apart. Functions are kept under their qualified names, so a dot in the
name of a skill or a function can make one text of two pairs of names. Where no two skills share a
text, a registry is a table of functions by pairs of names. Skills without dots share none. -/
namespace SkillHost

/-- Functions by the names of their skills and their own, both in lower case. -/
abbrev Pairs := Text → Text → Option SkillFunction

namespace Pairs

def empty : Pairs := fun _ _ => none

def handle (t : Pairs) : Registry.Event → Pairs
  | .registered entry => fun skill function =>
    if skill = Text.lowercase entry.skill ∧ function = Text.lowercase entry.function.name then
      some entry.function
    else t skill function
  | .removed gone => fun skill function =>
    if skill = Text.lowercase gone then none else t skill function

def run (changes : List Registry.Change) : Pairs := (Registry.history changes).foldl handle empty

end Pairs

namespace Registry

/-- No function came in under the text of a pair of names and for another skill. -/
def Unshared (events : List Event) (skill function : Text) : Prop :=
  ∀ entry, .registered entry ∈ events → entry.key = key skill function →
    Text.lowercase entry.skill = Text.lowercase skill

/-- All look-ups of a pair of names find this function, or none of them finds one. -/
def Finds (r : Registry) (skill function : Text) (found : Option SkillFunction) : Prop :=
  r.get? skill function = found ∧ r.contains skill function = found.isSome ∧
    ∀ input, (r.invoke skill function input).value =
      match found with
      | none => .error (.functionNotFound (qualifiedName skill function))
      | some f => (f.run input).answer

def SameFor (r r' : Registry) (skill function : Text) : Prop :=
  r'.get? skill function = r.get? skill function ∧
    r'.contains skill function = r.contains skill function ∧
    ∀ input, r'.invoke skill function input = r.invoke skill function input

theorem finds_get? (r : Registry) (skill function : Text) :
    Finds r skill function (r.get? skill function) := by
  refine ⟨rfl, by rw [contains_eq, get?_eq, Option.isSome_map], fun input => ?_⟩
  unfold invoke
  cases r.get? skill function <;> rfl

theorem sameFor_of_kept? {r r' : Registry} {skill function : Text} (logger : r'.logger = r.logger)
    (h : r'.kept? (key skill function) = r.kept? (key skill function)) :
    SameFor r r' skill function := by
  have found : r'.get? skill function = r.get? skill function := by rw [get?_eq, get?_eq, h]
  refine ⟨found, by rw [contains_eq, contains_eq, h], fun input => ?_⟩
  simp only [invoke, found, report, logger]

theorem key_eq_iff {skill function skill' function' : Text}
    (h : Text.lowercase skill = Text.lowercase skill') :
    key skill function = key skill' function' ↔
      Text.lowercase function = Text.lowercase function' := by
  simp [key, qualifiedName, h]

theorem eq_of_append_dot {s f s' f' : Text} (h : '.' ∉ s) (h' : '.' ∉ s')
    (same : s ++ '.' :: f = s' ++ '.' :: f') : s = s' := by
  have upTo {s : Text} (h : '.' ∉ s) (f : Text) : (s ++ '.' :: f).takeWhile (· != '.') = s := by
    have plain : ∀ c ∈ s, (c != '.') = true := fun c mem =>
      bne_iff_ne.mpr (ne_of_mem_of_not_mem mem h)
    rw [List.takeWhile_append_of_pos plain]
    simp
  rw [← upTo h f, same, upTo h' f']

theorem lowercase_eq_of_key_eq {skill function skill' function' : Text} (h : '.' ∉ skill)
    (h' : '.' ∉ skill') (same : key skill function = key skill' function') :
    Text.lowercase skill = Text.lowercase skill' :=
  eq_of_append_dot (fun mem => h (Text.dot_mem_of_mem_lowercase mem))
    (fun mem => h' (Text.dot_mem_of_mem_lowercase mem)) same

theorem unshared_concat {events : List Event} {e : Event} {skill function : Text} :
    Unshared (events ++ [e]) skill function ↔
      Unshared events skill function ∧ Unshared [e] skill function := by
  simp only [Unshared, List.mem_append, or_imp, forall_and]

theorem get?_handle {r : Registry} {t : Pairs} {skill function : Text} {e : Event}
    (unshared : Unshared [e] skill function)
    (own : ∀ entry, r.kept? (key skill function) = some entry →
      Text.lowercase entry.skill = Text.lowercase skill)
    (h : r.get? skill function = t (Text.lowercase skill) (Text.lowercase function)) :
    (r.handle e).get? skill function =
      t.handle e (Text.lowercase skill) (Text.lowercase function) := by
  rw [get?_eq] at h ⊢
  cases e with
  | registered entry =>
    have there : key skill function = entry.key ↔
        Text.lowercase skill = Text.lowercase entry.skill ∧
          Text.lowercase function = Text.lowercase entry.function.name := by
      constructor
      · intro same
        have skills := (unshared entry List.mem_cons_self same.symm).symm
        exact ⟨skills, (key_eq_iff skills).mp same⟩
      · exact fun ⟨skills, functions⟩ => (key_eq_iff skills).mpr functions
    rw [kept?_registered, Pairs.handle]
    simp only [there]
    split
    · rfl
    · exact h
  | removed gone =>
    rw [kept?_removed, Pairs.handle]
    beta_reduce
    rw [← h]
    cases found : r.kept? (key skill function) with
    | none => simp
    | some entry => by_cases same : Text.lowercase skill = Text.lowercase gone <;>
        simp [Option.filter, Registered.isOf, own entry found, same]

theorem registered_of_stays {events : List Event} {k : Text} {entry : Registered}
    (h : Stays events k entry) : .registered entry ∈ events ∧ entry.key = k := by
  obtain ⟨earlier, later, rfl, hk, -⟩ := h
  exact ⟨by simp, hk⟩

theorem own_of_unshared {logger : Logger} {events : List Event} {skill function : Text}
    (unshared : Unshared events skill function) (entry : Registered)
    (h : (events.foldl handle (empty logger)).kept? (key skill function) = some entry) :
    Text.lowercase entry.skill = Text.lowercase skill := by
  obtain ⟨mem, hk⟩ := registered_of_stays ((kept?_foldl_handle ..).mp h)
  exact unshared entry mem hk

theorem get?_foldl_handle (logger : Logger) {events : List Event} {skill function : Text}
    (unshared : Unshared events skill function) :
    (events.foldl handle (empty logger)).get? skill function =
      events.foldl Pairs.handle Pairs.empty (Text.lowercase skill) (Text.lowercase function) := by
  induction events using List.reverseRecOn with
  | nil => rfl
  | append_singleton events e ih =>
    obtain ⟨before, last⟩ := unshared_concat.mp unshared
    simp only [List.foldl_append, List.foldl_cons, List.foldl_nil]
    exact get?_handle last (own_of_unshared before) (ih before)

theorem kept?_importSkill (r : Registry) (skill : Text) {fs : List SkillFunction} {k : Text}
    (other : ∀ f ∈ fs, key skill f.name ≠ k) :
    (r.importSkill skill fs).1.kept? k = r.kept? k := by
  rw [show (r.importSkill skill fs).1 = _ from r.change_eq (.importSkill skill fs), Change.events]
  induction fs generalizing r with
  | nil => rfl
  | cons f fs ih =>
    obtain ⟨first, rest⟩ := List.forall_mem_cons.mp other
    rw [List.map_cons, List.foldl_cons, ih _ rest, kept?_registered]
    exact if_neg (Ne.symm first)

structure Isolated (changes : List Change) (r : Registry) : Prop where
  /-- Where no two skills share a text, a registry is a table by pairs of names. -/
  paired : ∀ skill function, Unshared (history changes) skill function →
    Finds r skill function (Pairs.run changes (Text.lowercase skill) (Text.lowercase function))
  imports : ∀ imported fs skill function, (∀ f ∈ fs, key imported f.name ≠ key skill function) →
    SameFor r (r.importSkill imported fs).1 skill function
  removes : ∀ gone k entry, (r.removeSkill gone).1.kept? k = some entry ↔
    r.kept? k = some entry ∧ Text.lowercase entry.skill ≠ Text.lowercase gone
  gone : ∀ skill function, Unshared (history changes) skill function →
    (r.removeSkill skill).1.contains skill function = false
  kept : ∀ gone skill function, Text.lowercase skill ≠ Text.lowercase gone →
    Unshared (history changes) skill function → SameFor r (r.removeSkill gone).1 skill function
  dotless : (∀ skill fs, .importSkill skill fs ∈ changes → '.' ∉ skill) →
    ∀ skill function, '.' ∉ skill → Unshared (history changes) skill function
  importsDotless : ∀ imported fs skill function, '.' ∉ imported → '.' ∉ skill →
    Text.lowercase skill ≠ Text.lowercase imported →
    SameFor r (r.importSkill imported fs).1 skill function

theorem unshared_of_dotless {changes : List Change}
    (dotless : ∀ skill fs, .importSkill skill fs ∈ changes → '.' ∉ skill) {skill function : Text}
    (h : '.' ∉ skill) : Unshared (history changes) skill function := by
  intro entry mem same
  obtain ⟨c, hc, mem⟩ := List.mem_flatMap.mp mem
  cases c with
  | removeSkill gone => simp [Change.events] at mem
  | importSkill imported fs =>
    obtain ⟨f, -, rfl⟩ : ∃ f ∈ fs, ⟨imported, f⟩ = entry := by simpa [Change.events] using mem
    exact lowercase_eq_of_key_eq (dotless imported fs hc) h same

theorem sameFor_importSkill (r : Registry) {imported skill function : Text}
    {fs : List SkillFunction} (other : ∀ f ∈ fs, key imported f.name ≠ key skill function) :
    SameFor r (r.importSkill imported fs).1 skill function :=
  sameFor_of_kept? (r.logger_change (.importSkill imported fs))
    (r.kept?_importSkill imported other)

theorem kept?_removeSkill_eq_some (r : Registry) {gone k : Text} {entry : Registered} :
    (r.removeSkill gone).1.kept? k = some entry ↔
      r.kept? k = some entry ∧ Text.lowercase entry.skill ≠ Text.lowercase gone := by
  rw [show (r.removeSkill gone).1 = r.handle (.removed gone) from rfl, kept?_removed,
    Option.filter_eq_some_iff]
  simp [Registered.isOf]

/-- Skills are kept apart as far as their texts are. -/
theorem isolated_run (logger : Logger) (changes : List Change) :
    Isolated changes ((empty logger).run changes) := by
  have own {skill function : Text} (unshared : Unshared (history changes) skill function) :
      ∀ entry, ((empty logger).run changes).kept? (key skill function) = some entry →
        Text.lowercase entry.skill = Text.lowercase skill := by
    rw [run_eq]
    exact own_of_unshared unshared
  constructor
  case paired =>
    intro skill function unshared
    rw [Pairs.run, ← get?_foldl_handle logger unshared, ← run_eq]
    exact finds_get? _ skill function
  case imports => exact fun _ _ _ _ other => sameFor_importSkill _ other
  case removes => exact fun _ _ _ => kept?_removeSkill_eq_some _
  case gone =>
    intro skill function unshared
    rw [contains_eq, Option.isSome_eq_false_iff, Option.isNone_iff_eq_none,
      Option.eq_none_iff_forall_ne_some]
    intro entry found
    obtain ⟨there, other⟩ := (kept?_removeSkill_eq_some _).mp found
    exact other (own unshared entry there)
  case kept =>
    intro gone skill function other unshared
    refine sameFor_of_kept? rfl (Option.ext fun entry => ?_)
    rw [kept?_removeSkill_eq_some, and_iff_left_iff_imp]
    intro there
    rw [own unshared entry there]
    exact other
  case dotless => exact fun dotless _ _ h => unshared_of_dotless dotless h
  case importsDotless =>
    intro imported fs skill function h h' other
    refine sameFor_importSkill _ fun f _ same => other ?_
    exact (lowercase_eq_of_key_eq h h' same).symm

def silent (name : String) : SkillFunction :=
  ⟨name.toList, [], SkillFunction.defaultSchema, fun _ => ⟨[], none, .ok none⟩⟩

/-- What comes in for the skill `a` is found for `a.b` too, and goes with `a`; what comes in for
`a.b` is found for `a` when that has been removed. -/
theorem dotted_names_share_text :
    Text.lowercase "a.b".toList ≠ Text.lowercase "a".toList ∧
      (empty .host).contains "a.b".toList "c".toList = false ∧
      ((empty .host).run [.importSkill "a".toList [silent "b.c"]]).contains
        "a.b".toList "c".toList = true ∧
      ((empty .host).run [.importSkill "a".toList [silent "b.c"], .removeSkill "a".toList]).contains
        "a.b".toList "c".toList = false ∧
      ((empty .host).run [.importSkill "a.b".toList [silent "c"], .removeSkill "a".toList]).contains
        "a".toList "b.c".toList = true := by
  decide +kernel

end Registry

end SkillHost
