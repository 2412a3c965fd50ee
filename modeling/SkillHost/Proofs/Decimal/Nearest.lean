import Mathlib.Tactic.Ring
import SkillHost.Decimal.Numeral

/-! Rounding to double precision. The number that a quotient rounds to depends on its value alone
and never falls as the value grows; it lies within half of the last place, and the powers of ten
that are not written out make no difference. -/
namespace SkillHost.Decimal

section
variable {a b c d num den n : Nat}

theorem halfEven_mul_mul (num den : Nat) (hc : 0 < c) :
    halfEven (num * c) (den * c) = halfEven num den := by
  have left : 2 * (num % den * c) = 2 * (num % den) * c := by rw [Nat.mul_assoc]
  unfold halfEven
  simp only [Nat.mul_div_mul_right _ _ hc, Nat.mul_mod_mul_right, left,
    Nat.mul_lt_mul_right hc]

theorem halfEven_le_halfEven (hc : 0 < c) (hd : 0 < d) (h : a * d ≤ b * c) :
    halfEven a c ≤ halfEven b d := by
  rw [← halfEven_mul_mul a c hd, ← halfEven_mul_mul b d hc, Nat.mul_comm d c]
  exact halfEven_mono h (c * d)

theorem halfEven_le_of_le (hden : 0 < den) (h : num ≤ n * den) : halfEven num den ≤ n := by
  have bound := halfEven_mono h den
  rwa [halfEven_mul n hden] at bound

theorem le_halfEven_of_le (hden : 0 < den) (h : n * den ≤ num) : n ≤ halfEven num den := by
  have bound := halfEven_mono h den
  rwa [halfEven_mul n hden] at bound

theorem halfEven_eq_of_near (above : 2 * num < 2 * (n * den) + den)
    (below : 2 * (n * den) < 2 * num + den) : halfEven num den = n := by
  have hden : 0 < den := by omega
  have high := halfEven_le num hden
  have low := le_halfEven num hden
  refine Nat.le_antisymm ?_ ?_
  · apply Nat.le_of_lt_succ
    apply Nat.lt_of_mul_lt_mul_right (a := den)
    rw [Nat.succ_mul]
    omega
  · apply Nat.le_of_lt_succ
    apply Nat.lt_of_mul_lt_mul_right (a := den)
    rw [Nat.succ_mul]
    omega

end

def unitPlaces : Nat := 1074

theorem unitsPerOne_eq : unitsPerOne = 2 ^ unitPlaces := by
  decide +kernel

theorem unitsPerOne_pos : 0 < unitsPerOne := by
  rw [unitsPerOne_eq]
  exact Nat.two_pow_pos unitPlaces

/-- How many bits the value has too many, in units. -/
def excess (num den : Nat) : Nat := (num * unitsPerOne / den).log2 - 52

section
variable {num den num' den' : Nat}

theorem excess_of_lt (h : num * unitsPerOne / den < 2 ^ 53) : excess num den = 0 := by
  unfold excess
  by_cases zero : num * unitsPerOne / den = 0
  · rw [zero, Nat.log2_zero]
  · have bits := (Nat.log2_lt zero).mpr h
    omega

theorem grid_pos (hden : 0 < den) (k : Nat) : 0 < den * 2 ^ k :=
  Nat.mul_pos hden (Nat.two_pow_pos k)

theorem nearestUnits_eq (num den : Nat) : nearestUnits num den =
    halfEven (num * unitsPerOne) (den * 2 ^ excess num den) * 2 ^ excess num den := by
  unfold nearestUnits
  simp only
  split
  · rename_i small
    rw [excess_of_lt small, Nat.pow_zero, Nat.mul_one, Nat.mul_one]
  · rfl

theorem lt_two_pow_excess (num : Nat) (hden : 0 < den) :
    num * unitsPerOne < 2 ^ 53 * (den * 2 ^ excess num den) := by
  have floor : num * unitsPerOne / den < 2 ^ (53 + excess num den) := by
    refine Nat.lt_of_lt_of_le Nat.lt_log2_self (Nat.pow_le_pow_right Nat.two_pos ?_)
    unfold excess
    omega
  rw [Nat.div_lt_iff_lt_mul hden, Nat.pow_add] at floor
  calc num * unitsPerOne < 2 ^ 53 * 2 ^ excess num den * den := floor
    _ = 2 ^ 53 * (den * 2 ^ excess num den) := by ring

theorem two_pow_excess_le (num : Nat) (hden : 0 < den) (h : 0 < excess num den) :
    2 ^ 52 * (den * 2 ^ excess num den) ≤ num * unitsPerOne := by
  have bits : 52 + excess num den = (num * unitsPerOne / den).log2 := by
    unfold excess at h ⊢
    omega
  have nonzero : num * unitsPerOne / den ≠ 0 := by
    intro zero
    rw [zero, Nat.log2_zero] at bits
    omega
  have floor := Nat.log2_self_le nonzero
  rw [← bits, Nat.le_div_iff_mul_le hden, Nat.pow_add] at floor
  calc 2 ^ 52 * (den * 2 ^ excess num den) = 2 ^ 52 * 2 ^ excess num den * den := by ring
    _ ≤ num * unitsPerOne := floor

theorem excess_mono (hden : 0 < den) (hden' : 0 < den') (h : num * den' ≤ num' * den) :
    excess num den ≤ excess num' den' := by
  have floors : num * unitsPerOne / den ≤ num' * unitsPerOne / den' := by
    rw [Nat.le_div_iff_mul_le hden']
    apply Nat.le_of_mul_le_mul_right _ hden
    calc num * unitsPerOne / den * den' * den = num * unitsPerOne / den * den * den' := by ring
      _ ≤ num * unitsPerOne * den' := Nat.mul_le_mul_right _ (Nat.div_mul_le_self ..)
      _ = num * den' * unitsPerOne := by ring
      _ ≤ num' * den * unitsPerOne := Nat.mul_le_mul_right _ h
      _ = num' * unitsPerOne * den := by ring
  unfold excess
  by_cases zero : num * unitsPerOne / den = 0
  · rw [zero, Nat.log2_zero]
    omega
  · have bits : (num * unitsPerOne / den).log2 ≤ (num' * unitsPerOne / den').log2 := by
      have nonzero : num' * unitsPerOne / den' ≠ 0 := fun none =>
        zero (Nat.le_zero.mp (none ▸ floors))
      rw [Nat.le_log2 nonzero]
      exact Nat.le_trans (Nat.log2_self_le zero) floors
    omega

theorem nearestUnits_mono (hden : 0 < den) (hden' : 0 < den') (h : num * den' ≤ num' * den) :
    nearestUnits num den ≤ nearestUnits num' den' := by
  rw [nearestUnits_eq, nearestUnits_eq]
  rcases Nat.eq_or_lt_of_le (excess_mono hden hden' h) with same | less
  · rw [same]
    refine Nat.mul_le_mul_right _ (halfEven_le_halfEven (grid_pos hden _) (grid_pos hden' _) ?_)
    calc num * unitsPerOne * (den' * 2 ^ excess num' den')
        = num * den' * (unitsPerOne * 2 ^ excess num' den') := by ring
      _ ≤ num' * den * (unitsPerOne * 2 ^ excess num' den') := Nat.mul_le_mul_right _ h
      _ = num' * unitsPerOne * (den * 2 ^ excess num' den') := by ring
  · -- The grids differ: a power of two lies between the numbers.
    have low := halfEven_le_of_le (grid_pos hden _) (Nat.le_of_lt (lt_two_pow_excess num hden))
    have high := le_halfEven_of_le (grid_pos hden' _)
      (two_pow_excess_le num' hden' (Nat.zero_lt_of_lt less))
    calc halfEven (num * unitsPerOne) (den * 2 ^ excess num den) * 2 ^ excess num den
        ≤ 2 ^ 53 * 2 ^ excess num den := Nat.mul_le_mul_right _ low
      _ = 2 ^ (53 + excess num den) := (Nat.pow_add ..).symm
      _ ≤ 2 ^ (52 + excess num' den') := Nat.pow_le_pow_right Nat.two_pos (by omega)
      _ = 2 ^ 52 * 2 ^ excess num' den' := Nat.pow_add ..
      _ ≤ _ := Nat.mul_le_mul_right _ high

theorem two_pow_le_nearestUnits {j : Nat} (hden : 0 < den)
    (h : 2 ^ j * den ≤ num * unitsPerOne) : 2 ^ j ≤ nearestUnits num den := by
  rw [nearestUnits_eq]
  rcases Nat.eq_zero_or_pos (excess num den) with none | some
  · rw [none, Nat.pow_zero, Nat.mul_one, Nat.mul_one]
    exact le_halfEven_of_le hden h
  · have floor : 2 ^ j ≤ num * unitsPerOne / den := (Nat.le_div_iff_mul_le hden).mpr h
    have nonzero : num * unitsPerOne / den ≠ 0 := fun zero =>
      absurd (Nat.le_trans (Nat.one_le_two_pow (n := j)) floor) (by rw [zero]; decide)
    have bits : j ≤ 52 + excess num den := by
      rw [← Nat.le_log2 nonzero] at floor
      unfold excess at some ⊢
      omega
    have high := le_halfEven_of_le (grid_pos hden _)
      (two_pow_excess_le num hden some)
    calc 2 ^ j ≤ 2 ^ (52 + excess num den) := Nat.pow_le_pow_right Nat.two_pos bits
      _ = 2 ^ 52 * 2 ^ excess num den := Nat.pow_add ..
      _ ≤ _ := Nat.mul_le_mul_right _ high

/-- The nearest number lies within half of the last place, above and below. -/
theorem nearestUnits_near (hden : 0 < den) :
    2 * (den * nearestUnits num den) ≤ 2 * (num * unitsPerOne) + den * 2 ^ excess num den ∧
    2 * (num * unitsPerOne) ≤ 2 * (den * nearestUnits num den) + den * 2 ^ excess num den := by
  have high := halfEven_le (num * unitsPerOne) (grid_pos hden (excess num den))
  have low := le_halfEven (num * unitsPerOne) (grid_pos hden (excess num den))
  have same : den * nearestUnits num den = halfEven (num * unitsPerOne)
      (den * 2 ^ excess num den) * (den * 2 ^ excess num den) := by
    rw [nearestUnits_eq]
    ring
  rw [same]
  exact ⟨high, low⟩

end

def numerator (digits : Nat) (exponent : Int) : Nat := digits * 10 ^ exponent.toNat

def denominator (exponent : Int) : Nat := 10 ^ (-exponent).toNat

theorem denominator_pos (exponent : Int) : 0 < denominator exponent :=
  Nat.pow_pos (by decide)

def limitPlaces : Nat := 1024

theorem unitsLimit_eq : unitsLimit = 2 ^ limitPlaces * unitsPerOne := by
  decide +kernel

theorem unitsLimit_pos : 0 < unitsLimit := by
  rw [unitsLimit_eq]
  exact Nat.mul_pos (Nat.two_pow_pos limitPlaces) unitsPerOne_pos

theorem nearest?_of_lt {num den : Nat} (h : nearestUnits num den < unitsLimit) :
    nearest? num den = some (nearestUnits num den) := by
  simp only [nearest?, h, if_true]

theorem nearest?_of_le {num den : Nat} (h : unitsLimit ≤ nearestUnits num den) :
    nearest? num den = none := by
  simp only [nearest?, Nat.not_lt.mpr h, if_false]

theorem nearest?_of_small {num den : Nat} (h : 2 * (num * unitsPerOne) < den) :
    nearest? num den = some 0 := by
  have tiny : num * unitsPerOne / den = 0 := Nat.div_eq_of_lt (by omega)
  have none : excess num den = 0 := excess_of_lt (by rw [tiny]; decide)
  have zero : nearestUnits num den = 0 := by
    rw [nearestUnits_eq, none, Nat.pow_zero, Nat.mul_one, Nat.mul_one]
    exact halfEven_eq_of_near (by omega) (by omega)
  rw [nearest?_of_lt (zero ▸ unitsLimit_pos), zero]

theorem nearest?_of_large {num : Nat} (h : 2 ^ limitPlaces ≤ num) : nearest? num 1 = none := by
  obtain ⟨places, power⟩ : ∃ places, unitsLimit = 2 ^ places :=
    ⟨limitPlaces + unitPlaces, by rw [unitsLimit_eq, unitsPerOne_eq, Nat.pow_add]⟩
  refine nearest?_of_le ?_
  rw [power]
  refine two_pow_le_nearestUnits Nat.one_pos ?_
  rw [← power, unitsLimit_eq, Nat.mul_one]
  exact Nat.mul_le_mul_right _ h

/-- Powers of ten that are not written out make no difference: beyond them a number is infinite, or
nearest to zero. -/
theorem unitsOf?_eq (digits : Nat) (exponent : Int) :
    unitsOf? digits exponent = nearest? (numerator digits exponent) (denominator exponent) := by
  unfold unitsOf? powerLimit
  split
  · rename_i zero
    rw [numerator, zero, Nat.zero_mul, nearest?_of_small]
    rw [Nat.zero_mul, Nat.mul_zero]
    exact denominator_pos exponent
  · rename_i nonzero
    split
    · rename_i nonneg
      have one : denominator exponent = 1 := by
        rw [denominator, show (-exponent).toNat = 0 by omega, Nat.pow_zero]
      rw [one]
      split
      · rename_i large
        refine (nearest?_of_large ?_).symm
        calc 2 ^ limitPlaces ≤ 10 ^ 401 := by decide +kernel
          _ ≤ 10 ^ exponent.toNat := Nat.pow_le_pow_right (by decide) large
          _ ≤ numerator digits exponent := Nat.le_mul_of_pos_left _ (Nat.pos_of_ne_zero nonzero)
      · rfl
    · rename_i negative
      have whole : numerator digits exponent = digits := by
        rw [numerator, show exponent.toNat = 0 by omega, Nat.pow_zero, Nat.mul_one]
      rw [whole]
      split
      · rename_i small
        -- The digits are below a power of two, and that far down it is less than half a unit.
        refine (nearest?_of_small ?_).symm
        have places : 401 + digits.log2 ≤ (-exponent).toNat := by omega
        calc 2 * (digits * unitsPerOne)
            < 2 * (2 ^ (digits.log2 + 1) * unitsPerOne) := by
              have bits := Nat.lt_log2_self (n := digits)
              have scaled := Nat.mul_lt_mul_of_pos_right bits unitsPerOne_pos
              omega
          _ = 2 ^ digits.log2 * 2 ^ (unitPlaces + 2) := by
              rw [unitsPerOne_eq, Nat.pow_succ, Nat.pow_add]
              ring
          _ ≤ 10 ^ digits.log2 * 10 ^ 401 :=
              Nat.mul_le_mul (Nat.pow_le_pow_left (by decide) _) (by decide +kernel)
          _ = 10 ^ (401 + digits.log2) := by rw [Nat.add_comm, Nat.pow_add]
          _ ≤ denominator exponent := Nat.pow_le_pow_right (by decide) places
      · rfl

end SkillHost.Decimal
