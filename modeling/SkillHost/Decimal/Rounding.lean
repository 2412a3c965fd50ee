/-! Rounding a quotient of natural numbers to the nearest natural number. The lemmas say that the
result is within half a unit, that whole numbers stay, and that the order is kept. -/
namespace SkillHost.Decimal

/-- The natural number nearest to `num / den`; of two equally near ones the even one. -/
def halfEven (num den : Nat) : Nat :=
  let floor := num / den
  let rest := num % den
  if 2 * rest < den then floor
  else if den < 2 * rest then floor + 1
  else floor + floor % 2

theorem halfEven_le (num : Nat) {den : Nat} (h : 0 < den) :
    2 * (halfEven num den * den) ≤ 2 * num + den := by
  have hdiv := Nat.div_add_mod num den
  have hmod := Nat.mod_lt num h
  rw [Nat.mul_comm] at hdiv
  unfold halfEven
  simp only
  split
  · omega
  · split
    · rw [Nat.add_mul]
      omega
    · rcases Nat.mod_two_eq_zero_or_one (num / den) with he | he
      · rw [he, Nat.add_zero]
        omega
      · rw [he, Nat.add_mul]
        omega

theorem le_halfEven (num : Nat) {den : Nat} (h : 0 < den) :
    2 * num ≤ 2 * (halfEven num den * den) + den := by
  have hdiv := Nat.div_add_mod num den
  have hmod := Nat.mod_lt num h
  rw [Nat.mul_comm] at hdiv
  unfold halfEven
  simp only
  split
  · omega
  · split
    · rw [Nat.add_mul]
      omega
    · rcases Nat.mod_two_eq_zero_or_one (num / den) with he | he
      · rw [he, Nat.add_zero]
        omega
      · rw [he, Nat.add_mul]
        omega

theorem halfEven_mul (n : Nat) {den : Nat} (h : 0 < den) : halfEven (n * den) den = n := by
  simp [halfEven, Nat.mul_div_cancel n h, h]

theorem halfEven_mono {a b : Nat} (hab : a ≤ b) (den : Nat) : halfEven a den ≤ halfEven b den := by
  have hdiv := Nat.div_le_div_right (c := den) hab
  rcases Nat.eq_or_lt_of_le hdiv with heq | hlt
  · have ha := Nat.div_add_mod a den
    have hb := Nat.div_add_mod b den
    have hmod : a % den ≤ b % den := by
      rw [heq] at ha
      omega
    unfold halfEven
    simp only [heq]
    split <;> split <;> (try split) <;> (try split) <;> omega
  · unfold halfEven
    simp only
    have h2 := Nat.mod_lt (a / den) Nat.two_pos
    split <;> split <;> (try split) <;> (try split) <;> omega

end SkillHost.Decimal
