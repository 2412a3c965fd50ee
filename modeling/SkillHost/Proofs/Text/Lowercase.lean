import SkillHost.Text.Lowercase

/-! Which characters lower case brings into a text. -/
namespace SkillHost.Text

theorem caseRuns_bounds : ∀ r ∈ caseRuns, 97 ≤ r.first + r.shift ∧
    (r.last + r.shift < 0xd800 ∨ 0xdfff < r.first + r.shift ∧ r.last + r.shift < 0x110000) := by
  decide +kernel

theorem CaseRun.toNat_shifted {r : CaseRun} (mem : r ∈ caseRuns) {a : Char} (has : r.has a = true) :
    ((Char.ofNat (a.toNat + r.shift).toNat).toNat : Int) = a.toNat + r.shift := by
  obtain ⟨low, valid⟩ := caseRuns_bounds r mem
  simp only [CaseRun.has, Bool.and_eq_true, decide_eq_true_eq] at has
  have shifted : (a.toNat + r.shift).toNat.isValidChar := by
    unfold Nat.isValidChar
    omega
  have same : (Char.ofNat (a.toNat + r.shift).toNat).toNat = (a.toNat + r.shift).toNat := by
    rw [Char.ofNat, dif_pos shifted]
    rfl
  omega

theorem mem_lowerChar {a c : Char} (h : c ∈ lowerChar a) : c = a ∨ 97 ≤ c.toNat := by
  unfold lowerChar at h
  split at h
  · right
    simp only [List.mem_cons, List.not_mem_nil, or_false] at h
    rcases h with rfl | rfl <;> decide
  split at h
  · rename_i r found
    obtain rfl := List.mem_singleton.mp h
    have mem := List.mem_of_find?_eq_some found
    have inside := List.find?_some found
    have shifted := CaseRun.toNat_shifted mem inside
    have low := (caseRuns_bounds r mem).1
    simp only [CaseRun.has, Bool.and_eq_true, decide_eq_true_eq] at inside
    omega
  · exact .inl (List.mem_singleton.mp h)

theorem mem_lowerFrom {inWord : Bool} {t : Text} {c : Char} (h : c ∈ lowerFrom inWord t) :
    c ∈ t ∨ 97 ≤ c.toNat := by
  induction t generalizing inWord with
  | nil => cases h
  | cons a rest ih =>
    rw [lowerFrom, List.mem_append] at h
    rcases h with first | later
    · split at first
      · right
        obtain rfl := List.mem_singleton.mp first
        split <;> decide
      · refine (mem_lowerChar first).imp_left fun same => ?_
        rw [same]
        exact List.mem_cons_self
    · exact (ih later).imp_left (List.mem_cons_of_mem a)

theorem dot_mem_of_mem_lowercase {t : Text} (h : '.' ∈ lowercase t) : '.' ∈ t :=
  (mem_lowerFrom h).resolve_right (by decide)

end SkillHost.Text
