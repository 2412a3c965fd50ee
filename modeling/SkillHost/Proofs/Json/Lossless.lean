import Mathlib.Data.List.Perm.Basic
import SkillHost.Credentials.Coding
import SkillHost.Proofs.Json.ReadBack
import SkillHost.Skill.Coding

/-! Records that JSON keeps whole. What a record writes is read back as the record, its members in
any order and among others that it does not declare, and writing what was read changes nothing any
more. -/
namespace SkillHost

namespace Json

section
variable {names : List Text} {members others : List (Text × Json)}

theorem fields?_congr
    (same : ∀ name ∈ names,
      members.filter (fun m => m.1 = name) = others.filter fun m => m.1 = name) :
    fields? names (.object members) = fields? names (.object others) := by
  have once : (names.all fun name => (members.filter fun m => m.1 = name).length ≤ 1) =
      names.all fun name => (others.filter fun m => m.1 = name).length ≤ 1 := by
    rw [Bool.eq_iff_iff, List.all_eq_true, List.all_eq_true]
    exact forall₂_congr fun name mem => by rw [same name mem]
  have found : (names.map fun name => (members.find? fun m => m.1 = name).map Prod.snd) =
      names.map fun name => (others.find? fun m => m.1 = name).map Prod.snd := by
    refine List.map_congr_left fun name mem => ?_
    rw [← List.head?_filter, ← List.head?_filter, same name mem]
  simp only [fields?]
  rw [once, found]

theorem fields?_append {unknown : List (Text × Json)} (h : ∀ m ∈ unknown, m.1 ∉ names) :
    fields? names (.object (members ++ unknown)) = fields? names (.object members) := by
  refine fields?_congr fun name mem => ?_
  have none : (unknown.filter fun m => m.1 = name) = [] := by
    rw [List.filter_eq_nil_iff]
    intro m mem' equal
    exact h m mem' (by simpa [of_decide_eq_true equal] using mem)
  rw [List.filter_append, none, List.append_nil]

theorem fields?_perm (h : others.Perm members) :
    fields? names (.object others) = fields? names (.object members) := by
  have same := fun name : Text => h.filter fun m => m.1 = name
  have once : (names.all fun name => (others.filter fun m => m.1 = name).length ≤ 1) =
      names.all fun name => (members.filter fun m => m.1 = name).length ≤ 1 := by
    simp only [(same _).length_eq]
  by_cases all : (names.all fun name => (members.filter fun m => m.1 = name).length ≤ 1) = true
  · -- Of each name there is one member at most, so that there is no order among them.
    refine fields?_congr fun name mem => ?_
    have short := of_decide_eq_true (List.all_eq_true.mp all name mem)
    have alike := same name
    rcases filtered : members.filter fun m => m.1 = name with _ | ⟨m, _ | ⟨n, more⟩⟩
    · rw [filtered] at alike ⊢
      exact alike.eq_nil
    · rw [filtered] at alike ⊢
      exact List.perm_singleton.mp alike
    · rw [filtered] at short
      simp at short
  · rw [fields?, fields?, once, if_neg all, if_neg all]

end

theorem membersTextual_iff {members : List (Text × Json)} :
    MembersTextual members ↔ ∀ m ∈ members, m.2.Textual := by
  induction members with
  | nil => simp [MembersTextual]
  | cons m members ih => rw [MembersTextual, ih, List.forall_mem_cons]

/-- Records of a type come back from JSON, whose declared members have the given names. -/
structure Lossless {α : Type} (names : List Text) (toJson : α → Json) (ofText? : Text → Option α) :
    Prop where
  readBack : ∀ v, ofText? (toJson v).text = some v
  /-- Of any accepted text the value is written in one way, which stands for the same value. -/
  settled : ∀ t v, ofText? t = some v →
    ∃ again, ofText? (toJson v).text = some again ∧ again = v ∧
      (toJson again).text = (toJson v).text
  reordered : ∀ v members, toJson v = object members →
    ∀ unknown : List (Text × Json), (∀ m ∈ unknown, m.1 ∉ names ∧ m.2.Textual) →
    ∀ others, others.Perm (members ++ unknown) → ofText? (object others).text = some v
  /-- The values alone stand for the record as well. -/
  listed : ∀ v members, toJson v = object members →
    ofText? (array (members.map Prod.snd)).text = some v

theorem itemsTextual_map {members : List (Text × Json)} (h : MembersTextual members) :
    ItemsTextual (members.map Prod.snd) := by
  induction members with
  | nil => trivial
  | cons m members ih => exact ⟨h.1, ih h.2⟩

theorem lossless_of_fields {α : Type} {names : List Text} {toJson : α → Json}
    {ofJson? : Json → Option α}
    (byFields : ∀ i j, fields? names i = fields? names j → ofJson? i = ofJson? j)
    (made : ∀ v, ∃ members, toJson v = object members ∧ MembersTextual members ∧
      ofJson? (object members) = some v ∧
      fields? names (array (members.map Prod.snd)) = fields? names (object members)) :
    Lossless names toJson fun t => (parse? t).bind ofJson? := by
  have read : ∀ {i j : Json} {v}, i.Textual → fields? names i = fields? names j →
      ofJson? j = some v → (parse? i.text).bind ofJson? = some v := by
    intro i j v textual same found
    rw [parse?_text textual, Option.bind_some, byFields i j same, found]
  have readBack : ∀ v, (parse? (toJson v).text).bind ofJson? = some v := by
    intro v
    obtain ⟨members, written, textual, found, -⟩ := made v
    rw [written]
    exact read textual rfl found
  refine ⟨readBack, fun t v _ => ⟨v, readBack v, rfl, rfl⟩, ?_, ?_⟩
  · intro v members written unknown undeclared others perm
    obtain ⟨own, written', textual, found, -⟩ := made v
    cases written.symm.trans written'
    have all : (object others).Textual := by
      refine membersTextual_iff.mpr fun m mem => ?_
      rcases List.mem_append.mp (perm.mem_iff.mp mem) with mem | mem
      · exact membersTextual_iff.mp textual m mem
      · exact (undeclared m mem).2
    have same := (fields?_perm perm).trans (fields?_append fun m mem => (undeclared m mem).1)
    exact read all same found
  · intro v members written
    obtain ⟨own, written', textual, found, same⟩ := made v
    cases written.symm.trans written'
    exact read (i := array _) (itemsTextual_map textual) same found

end Json
open Json

def FunctionCall.declared : List Text :=
  ["id".toList, "skill".toList, "function".toList, "input".toList]

def FunctionResult.declared : List Text := ["callId".toList, "content".toList, "isError".toList]

def OpenAiCredentials.declared : List Text := ["api_key".toList, "org_id".toList]

def AzureCredentials.declared : List Text :=
  ["deployment_name".toList, "api_key".toList, "endpoint".toList]

theorem FunctionCall.lossless : Lossless declared toJson ofText? := by
  refine lossless_of_fields (fun i j same => ?_) fun c => ?_
  · rw [declared] at same
    rw [ofJson?, ofJson?, same]
  · exact ⟨_, rfl, ⟨trivial, trivial, trivial, trivial, trivial⟩, rfl, rfl⟩

theorem FunctionResult.lossless : Lossless declared toJson ofText? := by
  refine lossless_of_fields (fun i j same => ?_) fun r => ?_
  · rw [declared] at same
    rw [ofJson?, ofJson?, same]
  · obtain ⟨callId, content, isError⟩ := r
    cases isError with
    | false => exact ⟨_, rfl, ⟨trivial, trivial, trivial⟩, rfl, rfl⟩
    | true => exact ⟨_, rfl, ⟨trivial, trivial, trivial, trivial⟩, rfl, rfl⟩

theorem OpenAiCredentials.lossless : Lossless declared toJson ofText? := by
  refine lossless_of_fields (fun i j same => ?_) fun c => ?_
  · rw [declared] at same
    rw [ofJson?, ofJson?, same]
  · obtain ⟨apiKey, orgId⟩ := c
    cases orgId with
    | none => exact ⟨_, rfl, ⟨trivial, trivial⟩, rfl, rfl⟩
    | some orgId => exact ⟨_, rfl, ⟨trivial, trivial, trivial⟩, rfl, rfl⟩

theorem AzureCredentials.lossless : Lossless declared toJson ofText? := by
  refine lossless_of_fields (fun i j same => ?_) fun c => ?_
  · rw [declared] at same
    rw [ofJson?, ofJson?, same]
  · exact ⟨_, rfl, ⟨trivial, trivial, trivial, trivial⟩, rfl, rfl⟩

theorem FunctionResult.isError_mem_iff (r : FunctionResult) {members : List (Text × Json)}
    (h : toJson r = .object members) :
    "isError".toList ∈ members.map Prod.fst ↔ r.isError = true := by
  cases h
  cases r.isError <;> simp

theorem OpenAiCredentials.org_id_mem_iff (c : OpenAiCredentials) {members : List (Text × Json)}
    (h : toJson c = .object members) :
    "org_id".toList ∈ members.map Prod.fst ↔ c.orgId ≠ none := by
  cases h
  cases c.orgId <;> simp

/-- Calls, results and both kinds of credentials come back whole, although a result that is no error
is not marked and an organization that is not set is left out. -/
theorem records_lossless :
    Lossless FunctionCall.declared FunctionCall.toJson FunctionCall.ofText? ∧
    Lossless FunctionResult.declared FunctionResult.toJson FunctionResult.ofText? ∧
    Lossless OpenAiCredentials.declared OpenAiCredentials.toJson OpenAiCredentials.ofText? ∧
    Lossless AzureCredentials.declared AzureCredentials.toJson AzureCredentials.ofText? ∧
    (∀ r members, FunctionResult.toJson r = .object members →
      ("isError".toList ∈ members.map Prod.fst ↔ r.isError = true)) ∧
    (∀ c members, OpenAiCredentials.toJson c = .object members →
      ("org_id".toList ∈ members.map Prod.fst ↔ c.orgId ≠ none)) :=
  ⟨FunctionCall.lossless, FunctionResult.lossless, OpenAiCredentials.lossless,
    AzureCredentials.lossless, fun r _ => r.isError_mem_iff, fun c _ => c.org_id_mem_iff⟩

example : OpenAiCredentials.ofText? "[\"\\ud83d\\ude00\\u0000\", null]".toList =
    some ⟨[Char.ofNat 0x1f600, Char.ofNat 0], none⟩ := by
  decide

end SkillHost
