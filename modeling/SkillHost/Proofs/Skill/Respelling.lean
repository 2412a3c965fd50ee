import Mathlib.Data.List.Perm.Basic
import SkillHost.Proofs.Skill.Isolation
import SkillHost.Proofs.Text.Spelling

/-! Names in any case. Two runs of a registry whose changes name the same skills in different
spellings lead to tables that differ in the spellings that were stored and in nothing else, and from
there on no spelling of a name makes a difference either. -/
namespace SkillHost

def Registered.Respelled (a b : Registered) : Prop :=
  b.function = a.function ∧ Text.Respelled a.skill b.skill

theorem Registry.key_eq_of_respelled {skill skill' function function' : Text}
    (hs : Text.Respelled skill skill') (hf : Text.Respelled function function') :
    key skill' function' = key skill function := by
  rw [key, key, hs.lowercase_eq, hf.lowercase_eq]

theorem Registered.Respelled.key_eq {a b : Registered} (h : a.Respelled b) : b.key = a.key := by
  rw [Registered.key, h.1]
  exact Registry.key_eq_of_respelled h.2 (.refl _)

theorem Registered.Respelled.isOf_eq {a b : Registered} (h : a.Respelled b) {skill skill' : Text}
    (hs : Text.Respelled skill skill') : b.isOf skill' = a.isOf skill := by
  rw [Registered.isOf, h.2.lowercase_eq, hs.lowercase_eq]
  rfl

namespace Registry

inductive Change.Respelled : Change → Change → Prop where
  | importSkill {skill skill' : Text} (h : Text.Respelled skill skill') (fs : List SkillFunction) :
      Change.Respelled (.importSkill skill fs) (.importSkill skill' fs)
  | removeSkill {skill skill' : Text} (h : Text.Respelled skill skill') :
      Change.Respelled (.removeSkill skill) (.removeSkill skill')

theorem Change.Respelled.refl (c : Change) : c.Respelled c := by
  cases c with
  | importSkill skill fs => exact .importSkill (.refl skill) fs
  | removeSkill skill => exact .removeSkill (.refl skill)

inductive Event.Respelled : Event → Event → Prop where
  | registered {a b : Registered} (h : a.Respelled b) :
      Event.Respelled (.registered a) (.registered b)
  | removed {skill skill' : Text} (h : Text.Respelled skill skill') :
      Event.Respelled (.removed skill) (.removed skill')

theorem Change.Respelled.events {c c' : Change} (h : c.Respelled c') :
    List.Forall₂ Event.Respelled c.events c'.events := by
  cases h with
  | importSkill h fs =>
    rw [Change.events, Change.events, List.forall₂_map_left_iff, List.forall₂_map_right_iff,
      List.forall₂_same]
    exact fun f _ => .registered ⟨rfl, h⟩
  | removeSkill h => exact .cons (.removed h) .nil

def SameEntry (e e' : Text × Registered) : Prop := e'.1 = e.1 ∧ e.2.Respelled e'.2

theorem map_find?_eq_of_sameEntry {es es' : List (Text × Registered)}
    (h : List.Forall₂ SameEntry es es') (k : Text) :
    (Table.find? k es').map Registered.function = (Table.find? k es).map Registered.function := by
  induction h with
  | nil => rfl
  | cons first _ ih =>
    rw [Table.find?, Table.find?, first.1]
    split
    · exact congrArg some first.2.1
    · exact ih

theorem countP_isOf_eq_of_sameEntry {es es' : List (Text × Registered)}
    (h : List.Forall₂ SameEntry es es') {skill skill' : Text} (hs : Text.Respelled skill skill') :
    es'.countP (fun e => e.2.isOf skill') = es.countP fun e => e.2.isOf skill := by
  induction h with
  | nil => rfl
  | cons first _ ih => rw [List.countP_cons, List.countP_cons, ih, first.2.isOf_eq hs]

def SameInfo (i i' : FunctionInfo) : Prop :=
  Text.Respelled i.skill i'.skill ∧ i' = { i with skill := i'.skill }

structure SameButSkills (r r' : Registry) : Prop where
  logger : r'.logger = r.logger
  entries : List.Forall₂ SameEntry r.functions.entries r'.functions.entries

namespace SameButSkills
variable {r r' : Registry}

theorem handle (same : SameButSkills r r') {e e' : Event} (h : e.Respelled e') :
    SameButSkills (r.handle e) (r'.handle e') := by
  refine ⟨by rw [logger_handle, logger_handle, same.logger], ?_⟩
  cases h with
  | @registered a b h =>
    refine .cons ⟨h.key_eq, h⟩ (List.rel_filter ?_ same.entries)
    rintro e e' ⟨text, -⟩
    have texts : key b.skill b.function.name = key a.skill a.function.name := h.key_eq
    simp only [text, texts]
  | @removed skill skill' h =>
    refine List.rel_filter ?_ same.entries
    rintro e e' ⟨-, spelled⟩
    change (!e.2.isOf skill) = true ↔ (!e'.2.isOf skill') = true
    rw [spelled.isOf_eq h]

theorem change (same : SameButSkills r r') {c c' : Change} (h : c.Respelled c') :
    SameButSkills (r.change c) (r'.change c') := by
  rw [change_eq, change_eq]
  exact List.rel_foldl (fun _ _ same _ _ h => same.handle h) same h.events

theorem run (same : SameButSkills r r') {changes changes' : List Change}
    (h : List.Forall₂ Change.Respelled changes changes') :
    SameButSkills (r.run changes) (r'.run changes') :=
  List.rel_foldl (fun _ _ same _ _ h => same.change h) same h

theorem get?_eq (same : SameButSkills r r') {skill skill' function function' : Text}
    (hs : Text.Respelled skill skill') (hf : Text.Respelled function function') :
    r'.get? skill' function' = r.get? skill function := by
  rw [get?, get?, key_eq_of_respelled hs hf]
  exact map_find?_eq_of_sameEntry same.entries _

theorem contains_eq (same : SameButSkills r r') {skill skill' function function' : Text}
    (hs : Text.Respelled skill skill') (hf : Text.Respelled function function') :
    r'.contains skill' function' = r.contains skill function := by
  have found := congrArg Option.isSome (same.get?_eq hs hf)
  rwa [get?, get?, Option.isSome_map, Option.isSome_map] at found

theorem removeSkill_snd_eq (same : SameButSkills r r') {skill skill' : Text}
    (h : Text.Respelled skill skill') : (r'.removeSkill skill').2 = (r.removeSkill skill).2 := by
  rw [removeSkill_snd, removeSkill_snd]
  exact countP_isOf_eq_of_sameEntry same.entries h

/-- The listings have the same items, with the spellings that are stored. Their order may be another
one, as a sigma before the dot looks at the letters behind it. -/
theorem list_respelled (same : SameButSkills r r') :
    ∃ items, items.Perm r'.list ∧ List.Forall₂ SameInfo r.list items := by
  have infos : List.Forall₂ SameInfo (r.functions.entries.map fun e => infoOf e.2)
      (r'.functions.entries.map fun e => infoOf e.2) := by
    rw [List.forall₂_map_left_iff, List.forall₂_map_right_iff]
    refine same.entries.imp fun e e' ⟨_, function, spelled⟩ => ⟨spelled, ?_⟩
    rw [infoOf, infoOf, function]
  obtain ⟨items, respelled, there⟩ := List.perm_comp_forall₂ r.list_perm infos
  exact ⟨items, there.trans r'.list_perm.symm, respelled⟩

end SameButSkills

structure CaseBlind (r r' : Registry) : Prop where
  table : SameButSkills r r'
  found : ∀ {skill skill' function function'}, Text.Respelled skill skill' →
    Text.Respelled function function' →
    r'.get? skill' function' = r.get? skill function ∧
      r'.contains skill' function' = r.contains skill function
  /-- A function that is found does the same; only the name in the report of the call is as it was
  given. -/
  invoked : ∀ {skill skill' function function'}, Text.Respelled skill skill' →
    Text.Respelled function function' → r.contains skill function = true → ∀ input,
    (r'.invoke skill' function' input).value = (r.invoke skill function input).value ∧
      (r'.invoke skill' function' input).pause = (r.invoke skill function input).pause ∧
      (r'.invoke skill' function' input).before.tail = (r.invoke skill function input).before.tail
  imported : ∀ {skill skill'}, Text.Respelled skill skill' → ∀ fs,
    (r'.importSkill skill' fs).2.2 = (r.importSkill skill fs).2.2 ∧
      SameButSkills (r.importSkill skill fs).1 (r'.importSkill skill' fs).1
  removed : ∀ {skill skill'}, Text.Respelled skill skill' →
    (r'.removeSkill skill').2 = (r.removeSkill skill).2 ∧
      SameButSkills (r.removeSkill skill).1 (r'.removeSkill skill').1
  listed : ∃ items, items.Perm r'.list ∧ List.Forall₂ SameInfo r.list items

theorem caseBlind_of_sameButSkills {r r' : Registry} (same : SameButSkills r r') :
    CaseBlind r r' := by
  constructor
  case table => exact same
  case found => exact fun hs hf => ⟨same.get?_eq hs hf, same.contains_eq hs hf⟩
  case invoked =>
    intro skill skill' function function' hs hf there input
    rw [contains_eq, Option.isSome_iff_exists] at there
    obtain ⟨entry, kept⟩ := there
    have found : r.get? skill function = some entry.function := by
      rw [get?_eq, kept]
      rfl
    rw [invoke, invoke, same.get?_eq hs hf, found]
    exact ⟨rfl, rfl, rfl⟩
  case imported => exact fun hs fs => ⟨rfl, same.change (.importSkill hs fs)⟩
  case removed => exact fun hs => ⟨same.removeSkill_snd_eq hs, same.change (.removeSkill hs)⟩
  case listed => exact same.list_respelled

/-- In a registry no spelling of a name makes a difference, nor does any in the changes that led
to it. -/
theorem caseBlind_run (logger : Logger) (changes : List Change) :
    CaseBlind ((empty logger).run changes) ((empty logger).run changes) ∧
      ∀ changes', List.Forall₂ Change.Respelled changes changes' →
        CaseBlind ((empty logger).run changes) ((empty logger).run changes') := by
  have blind {changes' : List Change} (h : List.Forall₂ Change.Respelled changes changes') :
      CaseBlind ((empty logger).run changes) ((empty logger).run changes') :=
    caseBlind_of_sameButSkills (SameButSkills.run ⟨rfl, .nil⟩ h)
  exact ⟨blind (List.forall₂_same.mpr fun c _ => .refl c), fun _ => blind⟩

def skillsNamed (first second : Text) : List Change :=
  [.importSkill first [silent "Run"], .importSkill second [silent "add"], .removeSkill second]

theorem caseBlind_skillsNamed :
    List.Forall₂ Change.Respelled (skillsNamed "İΣ".toList "Notes".toList)
        (skillsNamed (Text.lowercase "İΣ".toList) "nOTES".toList) ∧
      CaseBlind ((empty .host).run (skillsNamed "İΣ".toList "Notes".toList))
        ((empty .host).run (skillsNamed (Text.lowercase "İΣ".toList) "nOTES".toList)) ∧
      ((empty .host).run (skillsNamed (Text.lowercase "İΣ".toList) "nOTES".toList)).contains
        "İΣ".toList "rUN".toList = true := by
  have notes : Text.Respelled "Notes".toList "nOTES".toList := .letters (by decide)
  have h : List.Forall₂ Change.Respelled (skillsNamed "İΣ".toList "Notes".toList)
      (skillsNamed (Text.lowercase "İΣ".toList) "nOTES".toList) :=
    .cons (.importSkill (.lowercase _) _) (.cons (.importSkill notes _)
      (.cons (.removeSkill notes) .nil))
  exact ⟨h, (caseBlind_run .host _).2 _ h, by decide +kernel⟩

end Registry

end SkillHost
