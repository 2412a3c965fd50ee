import SkillHost.Proofs.Skill.Changes

/-! The books of a registry. After any imports and removals a look-up finds what came in last under
its text, unless its skill has gone since; the listing, the count and the numbers that imports and
removals tell agree with one another. -/
namespace SkillHost

namespace Report

def level : Report → LogLevel
  | entry e => e.level
  | line level _ => level

def message : Report → Text
  | entry e => e.message
  | line _ message => message

def tellsReplaced (report : Report) : Bool :=
  report.level = .warn && "[SkillRegistry] Replaced function ".toList.isPrefixOf report.message

end Report

namespace Registry

@[simp] theorem level_report (r : Registry) (level : LogLevel) (message : Text) :
    (r.report level message).level = level := by
  unfold report Logger.report
  cases r.logger <;> rfl

@[simp] theorem message_report (r : Registry) (level : LogLevel) (message : Text) :
    (r.report level message).message = "[SkillRegistry] ".toList ++ message := by
  unfold report Logger.report
  cases r.logger <;> rfl

theorem tellsReplaced_replaced (r : Registry) (k : Text) :
    (r.report .warn ("Replaced function ".toList ++ k)).tellsReplaced = true := by
  rw [Report.tellsReplaced, level_report, message_report, ← List.append_assoc]
  simp

theorem tellsReplaced_info (r : Registry) (message : Text) :
    (r.report .info message).tellsReplaced = false := by
  simp [Report.tellsReplaced]

/-- An entry came in under a text, and since then no other did, nor has its skill gone. -/
def Stays (events : List Event) (k : Text) (entry : Registered) : Prop :=
  ∃ earlier later, events = earlier ++ .registered entry :: later ∧ entry.key = k ∧
    (∀ next, .registered next ∈ later → next.key ≠ k) ∧
    ∀ skill, .removed skill ∈ later → Text.lowercase skill ≠ Text.lowercase entry.skill

theorem stays_concat {events : List Event} {e : Event} {k : Text} {entry : Registered} :
    Stays (events ++ [e]) k entry ↔
      e = .registered entry ∧ entry.key = k ∨
      Stays events k entry ∧ (∀ next, e = .registered next → next.key ≠ k) ∧
        ∀ skill, e = .removed skill → Text.lowercase skill ≠ Text.lowercase entry.skill := by
  constructor
  · rintro ⟨earlier, later, parts, hk, replaced, removed⟩
    cases later using List.reverseRecOn with
    | nil =>
      have last := List.append_inj_right' parts rfl
      exact .inl ⟨List.singleton_inj.mp last, hk⟩
    | append_singleton later e' =>
      rw [← List.cons_append, ← List.append_assoc] at parts
      obtain ⟨before, last⟩ := List.append_inj' parts rfl
      obtain rfl := List.singleton_inj.mp last
      refine .inr ⟨⟨earlier, later, before, hk, fun next mem => ?_, fun skill mem => ?_⟩, ?_, ?_⟩
      · exact replaced next (List.mem_append_left _ mem)
      · exact removed skill (List.mem_append_left _ mem)
      · rintro next rfl
        exact replaced next (by simp)
      · rintro skill rfl
        exact removed skill (by simp)
  · rintro (⟨rfl, hk⟩ | ⟨⟨earlier, later, rfl, hk, replaced, removed⟩, last, gone⟩)
    · exact ⟨events, [], rfl, hk, nofun, nofun⟩
    · refine ⟨earlier, later ++ [e], by simp, hk, fun next mem => ?_, fun skill mem => ?_⟩
      · rcases List.mem_append.mp mem with mem | mem
        · exact replaced next mem
        · exact last next (List.mem_singleton.mp mem).symm
      · rcases List.mem_append.mp mem with mem | mem
        · exact removed skill mem
        · exact gone skill (List.mem_singleton.mp mem).symm

theorem kept?_foldl_handle (logger : Logger) (events : List Event) (k : Text)
    (entry : Registered) :
    (events.foldl handle (empty logger)).kept? k = some entry ↔ Stays events k entry := by
  induction events using List.reverseRecOn with
  | nil =>
    simp only [List.foldl_nil, kept?_empty, reduceCtorEq, false_iff]
    rintro ⟨earlier, later, parts, -⟩
    simp at parts
  | append_singleton events e ih =>
    rw [List.foldl_append, List.foldl_cons, List.foldl_nil, stays_concat, ← ih]
    cases e with
    | registered next =>
      rw [kept?_registered]
      split
      · rename_i h
        constructor
        · rintro ⟨⟩
          exact .inl ⟨rfl, h.symm⟩
        · rintro (⟨⟨⟩, -⟩ | ⟨-, others, -⟩)
          · rfl
          · exact absurd h.symm (others next rfl)
      · rename_i h
        constructor
        · intro found
          refine .inr ⟨found, ?_, nofun⟩
          rintro _ ⟨⟩
          exact Ne.symm h
        · rintro (⟨⟨⟩, hk⟩ | ⟨found, -⟩)
          · exact absurd hk.symm h
          · exact found
    | removed skill =>
      rw [kept?_removed, Option.filter_eq_some_iff]
      simp [Registered.isOf, ne_comm]

theorem key_eq_of_kept? (logger : Logger) (changes : List Change) {k : Text} {entry : Registered}
    (h : ((empty logger).run changes).kept? k = some entry) : entry.key = k := by
  rw [run_eq, kept?_foldl_handle] at h
  obtain ⟨-, -, -, hk, -⟩ := h
  exact hk

theorem countP_register (r : Registry) (skill : Text) (f : SkillFunction) :
    (r.register skill f).2.countP Report.tellsReplaced =
      if r.functions.contains (key skill f.name) then 1 else 0 := by
  rw [register]
  split
  · rw [List.countP_singleton, tellsReplaced_replaced, if_pos rfl]
  · rfl

theorem functionCount_registerAll (r : Registry) (skill : Text) (fs : List SkillFunction) :
    (r.registerAll skill fs).1.functionCount +
      (r.registerAll skill fs).2.countP Report.tellsReplaced = r.functionCount + fs.length := by
  induction fs generalizing r with
  | nil => rfl
  | cons f fs ih =>
    have first : (r.register skill f).1.functionCount +
        (r.register skill f).2.countP Report.tellsReplaced = r.functionCount + 1 := by
      rw [countP_register]
      exact r.functions.size_insert (key skill f.name) ⟨skill, f⟩
    have rest := ih (r.register skill f).1
    simp only [registerAll_cons, List.countP_append, List.length_cons]
    omega

theorem functionCount_importSkill (r : Registry) (skill : Text) (fs : List SkillFunction) :
    (r.importSkill skill fs).1.functionCount +
      (r.importSkill skill fs).2.1.countP Report.tellsReplaced = r.functionCount + fs.length := by
  rw [← functionCount_registerAll r skill fs, importSkill, List.countP_append]
  simp [tellsReplaced_info]

theorem removeSkill_snd (r : Registry) (skill : Text) :
    (r.removeSkill skill).2 = r.functions.entries.countP fun e => e.2.isOf skill := by
  have parts := List.length_eq_length_filter_add (l := r.functions.entries)
    fun e => e.2.isOf skill
  rw [← List.countP_eq_length_filter] at parts
  exact Nat.sub_eq_of_eq_add parts

theorem functionCount_removeSkill (r : Registry) (skill : Text) :
    (r.removeSkill skill).1.functionCount + (r.removeSkill skill).2 = r.functionCount :=
  Nat.add_sub_cancel' (List.length_filter_le _ _)

theorem list_perm (r : Registry) : r.list.Perm (r.functions.entries.map fun e => infoOf e.2) :=
  List.mergeSort_perm _ _

theorem countP_list (r : Registry) (skill : Text) :
    r.list.countP (fun i => Text.lowercase i.skill == Text.lowercase skill) =
      r.functions.entries.countP fun e => e.2.isOf skill := by
  rw [r.list_perm.countP_eq, List.countP_map]
  rfl

structure InOrder (changes : List Change) (r : Registry) : Prop where
  /-- A look-up finds the function that came in last under its text, if that one stays. -/
  latest : ∀ skill function f, r.get? skill function = some f ↔
    ∃ imported, Stays (history changes) (key skill function) ⟨imported, f⟩
  belongs : ∀ e ∈ r.functions.entries, e.1 = e.2.key
  listed : r.list.Perm (r.functions.entries.map fun e => infoOf e.2)
  counted : r.list.length = r.functionCount
  apart : (r.list.map fun i => key i.skill i.name).Nodup
  found : ∀ i ∈ r.list, ∃ e ∈ r.functions.entries, infoOf e.2 = i ∧
    r.get? i.skill i.name = some e.2.function
  imports : ∀ skill fs, (r.importSkill skill fs).2.2 = fs.length ∧
    (r.importSkill skill fs).1.functionCount +
      (r.importSkill skill fs).2.1.countP Report.tellsReplaced = r.functionCount + fs.length
  removes : ∀ skill,
    (r.removeSkill skill).1.functionCount + (r.removeSkill skill).2 = r.functionCount ∧
    (r.removeSkill skill).2 =
      r.list.countP fun i => Text.lowercase i.skill == Text.lowercase skill
  others : ∀ skill, (r.removeSkill skill).1.logger = r.logger ∧
    ∀ k, (r.removeSkill skill).1.kept? k = (r.kept? k).filter fun entry => !entry.isOf skill

theorem inOrder_run (logger : Logger) (changes : List Change) :
    InOrder changes ((empty logger).run changes) := by
  have belongs : ∀ e ∈ ((empty logger).run changes).functions.entries, e.1 = e.2.key :=
    fun e mem => (key_eq_of_kept? logger changes (Table.mem_entries_iff _ |>.mp mem)).symm
  have texts : (((empty logger).run changes).functions.entries.map fun e => e.2.key) =
      ((empty logger).run changes).functions.entries.map Prod.fst :=
    List.map_congr_left fun e mem => (belongs e mem).symm
  generalize hr : (empty logger).run changes = r at belongs texts ⊢
  constructor
  case latest =>
    intro skill function f
    rw [get?_eq, Option.map_eq_some_iff, ← hr, run_eq]
    simp only [kept?_foldl_handle]
    constructor
    · rintro ⟨⟨imported, g⟩, stays, rfl⟩
      exact ⟨imported, stays⟩
    · rintro ⟨imported, stays⟩
      exact ⟨⟨imported, f⟩, stays, rfl⟩
  case belongs => exact belongs
  case listed => exact r.list_perm
  case counted => rw [r.list_perm.length_eq, List.length_map]; rfl
  case apart =>
    have keys := r.list_perm.map fun i => key i.skill i.name
    rw [List.map_map] at keys
    rw [keys.nodup_iff]
    exact texts ▸ r.functions.distinct
  case found =>
    intro i mem
    obtain ⟨e, he, rfl⟩ := List.mem_map.mp (r.list_perm.mem_iff.mp mem)
    refine ⟨e, he, rfl, ?_⟩
    have kept : r.kept? e.2.key = some e.2 :=
      (Table.mem_entries_iff _).mp (belongs e he ▸ he)
    exact congrArg (Option.map Registered.function) kept
  case imports => exact fun skill fs => ⟨rfl, r.functionCount_importSkill skill fs⟩
  case removes =>
    intro skill
    exact ⟨r.functionCount_removeSkill skill, by rw [removeSkill_snd, countP_list]⟩
  case others => exact fun skill => ⟨rfl, r.kept?_removed skill⟩

end Registry

end SkillHost
