import SkillHost.Text.Basic

/-! The order of texts by code point: any two texts compare, and two that are below each other are
the same. -/
namespace SkillHost.Text

theorem le_total (s t : Text) : (le s t || le t s) = true := by
  induction s generalizing t with
  | nil => simp [le]
  | cons a s ih =>
    cases t with
    | nil => simp [le]
    | cons b t =>
      by_cases h : a = b
      · simpa [le, h] using ih t
      · have apart : a.toNat ≠ b.toNat := fun same => h (Char.toNat_inj.mp same)
        simp only [le, h, Ne.symm h, ↓reduceIte, Bool.or_eq_true, decide_eq_true_eq]
        omega

theorem le_antisymm {s t : Text} (below : le s t = true) (above : le t s = true) : s = t := by
  induction s generalizing t with
  | nil =>
    cases t with
    | nil => rfl
    | cons b t => simp [le] at above
  | cons a s ih =>
    cases t with
    | nil => simp [le] at below
    | cons b t =>
      by_cases h : a = b
      · simp only [le, h, ↓reduceIte] at below above
        rw [h, ih below above]
      · simp only [le, h, Ne.symm h, ↓reduceIte, decide_eq_true_eq] at below above
        omega

theorem le_trans (s t u : Text) (first : le s t = true) (second : le t u = true) :
    le s u = true := by
  induction s generalizing t u with
  | nil => rfl
  | cons a s ih =>
    cases t with
    | nil => simp [le] at first
    | cons b t =>
      cases u with
      | nil => simp [le] at second
      | cons c u =>
        by_cases h : a = b
        · by_cases h' : b = c
          · simp only [le, h, h', ↓reduceIte] at first second ⊢
            exact ih t u first second
          · simpa [le, h, h'] using second
        · by_cases h' : b = c
          · simpa [le, h, ← h'] using first
          · simp only [le, h, h', ↓reduceIte, decide_eq_true_eq] at first second ⊢
            have low : a ≠ c := fun same => by
              rw [same] at first
              omega
            rw [if_neg low, decide_eq_true_eq]
            omega

end SkillHost.Text
