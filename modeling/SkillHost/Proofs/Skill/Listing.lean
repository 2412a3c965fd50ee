import SkillHost.Proofs.Skill.Isolation
import SkillHost.Proofs.Text.Order
import SkillHost.Proofs.Text.Sigma

/-! The order of a listing. Entries are kept under two names in lower case with a dot between them,
but they are listed by the lower case of the joined name, in which a sigma on one side of the dot
looks at the letters on the other. So two entries can have one place in the order, and which of them
is listed first is then left to the order in which the table enumerates its entries. -/
namespace SkillHost

def FunctionInfo.orderText (i : FunctionInfo) : Text := Text.lowercase i.qualifiedName

def FunctionInfo.key (i : FunctionInfo) : Text := Registry.key i.skill i.name

theorem FunctionInfo.innerSigmas_orderText (i : FunctionInfo) :
    Text.innerSigmas i.orderText = Text.innerSigmas i.key := by
  have joined : i.qualifiedName = i.skill ++ (['.'] ++ i.name) := rfl
  have kept : i.key = Text.lowercase i.skill ++ (['.'] ++ Text.lowercase i.name) := rfl
  have dot : Text.lowercase ['.'] = ['.'] := by decide +kernel
  rw [orderText, joined, kept, Text.innerSigmas_lowercase_append, Text.innerSigmas_append,
    Text.innerSigmas_lowercase_append, ← Text.innerSigmas_append, dot]

theorem FunctionInfo.orderText_eq_key {i : FunctionInfo} (skill : ¬ Text.EndsInSigma i.skill)
    (name : ¬ Text.StartsInSigma i.name) : i.orderText = i.key := by
  have through : Text.isCaseIgnorable '.' = true := by decide +kernel
  have dot : Text.lowerChar '.' = ['.'] := by decide +kernel
  rw [orderText, qualifiedName, SkillHost.qualifiedName, Text.lowercase,
    Text.lowerFrom_append false _ skill, Text.lowerFrom, if_neg (by decide), dot, if_pos through,
    Text.lowerFrom_eq_lowercase _ name]
  rfl

namespace Registry

theorem not_sublist_swap {α : Type} {l : List α} (nodup : l.Nodup) {a b : α}
    (h : [a, b].Sublist l) : ¬ [b, a].Sublist l := by
  induction l with
  | nil => simp at h
  | cons c l ih => grind

def SameEntries (r r' : Registry) : Prop := r'.functions.entries.Perm r.functions.entries

def reordered (r : Registry) (entries : List (Text × Registered))
    (same : entries.Perm r.functions.entries) : Registry :=
  ⟨⟨entries, (same.map Prod.fst).nodup_iff.mpr r.functions.distinct⟩, r.logger⟩

def Ascending (infos : List FunctionInfo) : Prop :=
  infos.Pairwise fun a b => Text.le a.orderText b.orderText = true ∧ a.orderText ≠ b.orderText

theorem pairwise_list (r : Registry) :
    r.list.Pairwise fun a b => Text.le a.orderText b.orderText = true :=
  List.pairwise_mergeSort (fun a b c => Text.le_trans a.orderText b.orderText c.orderText)
    (fun a b => Text.le_total a.orderText b.orderText) _

theorem ascending_list_iff (r : Registry) :
    Ascending r.list ↔ (r.list.map FunctionInfo.orderText).Nodup := by
  rw [Ascending, List.pairwise_and_iff, List.Nodup, List.pairwise_map]
  exact and_iff_right r.pairwise_list

section
variable {r r' : Registry} (same : SameEntries r r')
include same

theorem list_perm_of_sameEntries : r'.list.Perm r.list :=
  r'.list_perm.trans ((same.map fun e => infoOf e.2).trans r.list_perm.symm)

theorem map_orderText_list :
    r'.list.map FunctionInfo.orderText = r.list.map FunctionInfo.orderText := by
  refine List.Perm.eq_of_pairwise (fun s t _ _ => Text.le_antisymm) ?_ ?_
    ((list_perm_of_sameEntries same).map _)
  · exact List.pairwise_map.mpr r'.pairwise_list
  · exact List.pairwise_map.mpr r.pairwise_list

theorem list_eq_of_nodup (apart : (r.list.map FunctionInfo.orderText).Nodup) :
    r'.list = r.list := by
  have items := list_perm_of_sameEntries same
  refine List.Perm.eq_of_pairwise (fun a b ha hb below above => ?_) r'.pairwise_list
    r.pairwise_list items
  exact List.inj_on_of_nodup_map apart (items.mem_iff.mp ha) hb (Text.le_antisymm below above)

end

theorem sublist_list_reordered (r : Registry) {a b : Text × Registered}
    {rest : List (Text × Registered)} (same : (a :: b :: rest).Perm r.functions.entries)
    (tie : (infoOf a.2).orderText = (infoOf b.2).orderText) :
    [infoOf a.2, infoOf b.2].Sublist (r.reordered (a :: b :: rest) same).list := by
  refine List.pair_sublist_mergeSort
    (fun a b c => Text.le_trans a.orderText b.orderText c.orderText)
    (fun a b => Text.le_total a.orderText b.orderText) ?_ ?_
  · have below : Text.le (infoOf a.2).orderText (infoOf b.2).orderText = true := by
      rw [tie, ← Bool.or_self (Text.le _ _)]
      exact Text.le_total _ _
    exact below
  · simp [reordered]

theorem exists_list_ne {r : Registry}
    (distinct : (r.functions.entries.map fun e => infoOf e.2).Nodup)
    (tie : ¬ (r.list.map FunctionInfo.orderText).Nodup) :
    ∃ r', SameEntries r r' ∧ r'.list ≠ r.list := by
  have entries : ¬ (r.functions.entries.map fun e => (infoOf e.2).orderText).Nodup := by
    rw [(r.list_perm.map FunctionInfo.orderText).nodup_iff, List.map_map] at tie
    exact tie
  rw [List.Nodup, List.pairwise_map, List.pairwise_iff_forall_sublist] at entries
  push Not at entries
  obtain ⟨a, b, there, tied⟩ := entries
  obtain ⟨rest, parts⟩ := there.exists_perm_append
  have first : (a :: b :: rest).Perm r.functions.entries := parts.symm
  have second : (b :: a :: rest).Perm r.functions.entries := (List.Perm.swap a b rest).trans first
  by_contra determined
  push Not at determined
  have ab := r.sublist_list_reordered first tied
  have ba := r.sublist_list_reordered second tied.symm
  rw [determined (r.reordered _ first) first] at ab
  rw [determined (r.reordered _ second) second] at ba
  exact not_sublist_swap (r.list_perm.nodup_iff.mpr distinct) ab ba

theorem entries_belong (logger : Logger) (changes : List Change) :
    ∀ e ∈ ((empty logger).run changes).functions.entries, e.1 = e.2.key :=
  fun _ mem => (key_eq_of_kept? logger changes ((Table.mem_entries_iff _).mp mem)).symm

theorem nodup_keys_run (logger : Logger) (changes : List Change) :
    (((empty logger).run changes).list.map FunctionInfo.key).Nodup := by
  generalize hr : (empty logger).run changes = r
  have belong : r.functions.entries.map (FunctionInfo.key ∘ fun e => infoOf e.2) =
      r.functions.entries.map Prod.fst :=
    List.map_congr_left fun e mem => (entries_belong logger changes e (hr ▸ mem)).symm
  rw [(r.list_perm.map FunctionInfo.key).nodup_iff, List.map_map, belong]
  exact r.functions.distinct

/-- How far a listing is determined by what is registered. -/
structure Listed (r : Registry) : Prop where
  /-- In whichever order the entries are enumerated, the same items are listed, and the texts by
  which they are ordered come in one and the same order. -/
  items : ∀ r', SameEntries r r' → r'.list.Perm r.list ∧
    r'.list.map FunctionInfo.orderText = r.list.map FunctionInfo.orderText
  ordered : r.list.Pairwise fun a b => Text.le a.orderText b.orderText = true
  /-- The listing does not depend on the enumeration exactly if no two items are ordered by the
  same text. -/
  determined : (∀ r', SameEntries r r' → r'.list = r.list) ↔
    (r.list.map FunctionInfo.orderText).Nodup
  ascending : Ascending r.list ↔ (r.list.map FunctionInfo.orderText).Nodup
  /-- Items that are ordered by the same text are kept under texts that differ in the forms of a
  small sigma and in nothing else. -/
  tied : ∀ a ∈ r.list, ∀ b ∈ r.list, a.orderText = b.orderText →
    Text.innerSigmas a.key = Text.innerSigmas b.key
  plain : (∀ i ∈ r.list, ¬ Text.EndsInSigma i.skill ∧ ¬ Text.StartsInSigma i.name) →
    (r.list.map FunctionInfo.orderText).Nodup

theorem listed_run (logger : Logger) (changes : List Change) :
    Listed ((empty logger).run changes) := by
  have keys := nodup_keys_run logger changes
  generalize (empty logger).run changes = r at keys
  have infos : (r.functions.entries.map fun e => infoOf e.2).Nodup :=
    r.list_perm.nodup_iff.mp (keys.of_map FunctionInfo.key)
  constructor
  case items => exact fun r' same => ⟨list_perm_of_sameEntries same, map_orderText_list same⟩
  case ordered => exact r.pairwise_list
  case determined =>
    constructor
    · intro determined
      by_contra tie
      obtain ⟨r', same, other⟩ := exists_list_ne infos tie
      exact other (determined r' same)
    · exact fun apart r' same => list_eq_of_nodup same apart
  case ascending => exact r.ascending_list_iff
  case tied =>
    intro a _ b _ tie
    rw [← a.innerSigmas_orderText, tie, b.innerSigmas_orderText]
  case plain =>
    intro plain
    have same : ∀ i ∈ r.list, i.orderText = i.key :=
      fun i mem => FunctionInfo.orderText_eq_key (plain i mem).1 (plain i mem).2
    rw [List.map_congr_left same]
    exact keys

def sigmaSkills : Registry :=
  (empty .host).run [.importSkill "AΣ".toList [silent "b"], .importSkill "Aσ".toList [silent "b"]]

/-- The two functions are kept under different texts and ordered by one, and the listing begins with
the one that the table enumerates first. -/
theorem sigmaSkills_listed_as_enumerated :
    sigmaSkills.functionCount = 2 ∧ ¬ Ascending sigmaSkills.list ∧
      sigmaSkills.list.map FunctionInfo.qualifiedName = ["Aσ.b".toList, "AΣ.b".toList] ∧
      ∃ r', SameEntries sigmaSkills r' ∧
        r'.list.map FunctionInfo.qualifiedName = ["AΣ.b".toList, "Aσ.b".toList] := by
  have enumerated {r : Registry} (sorted : (r.functions.entries.map fun e => infoOf e.2).Pairwise
      fun a b => Text.le a.orderText b.orderText = true) :
      r.list = r.functions.entries.map fun e => infoOf e.2 :=
    List.mergeSort_of_pairwise sorted
  refine ⟨by decide +kernel, ?_, ?_, sigmaSkills.reordered _ (List.reverse_perm _),
    List.reverse_perm _, ?_⟩
  · rw [enumerated (by decide +kernel), Ascending]
    decide +kernel
  · rw [enumerated (by decide +kernel)]
    decide +kernel
  · rw [enumerated (by decide +kernel)]
    decide +kernel

end Registry

end SkillHost
