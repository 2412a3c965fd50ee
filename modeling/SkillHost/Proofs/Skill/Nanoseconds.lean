import SkillHost.Proofs.Decimal.Plain
import SkillHost.Proofs.Skill.Waiting

/-! Plain decimals as times. Below 2²³ the double precision number nearest to a plain decimal is less
than half a nanosecond away, so that the second rounding takes back what the first did. -/
namespace SkillHost

namespace Decimal

section
variable {num den n : Nat}

theorem two_pow_excess_mul_le (hden : 0 < den) (small : num < 2 ^ 23 * den) :
    2 ^ excess num den * 2 ^ 30 ≤ unitsPerOne := by
  have enough : 30 ≤ unitPlaces := by decide
  have floor : num * unitsPerOne / den < 2 ^ (23 + unitPlaces) := by
    rw [Nat.div_lt_iff_lt_mul hden, pow_add, ← unitsPerOne_eq]
    calc num * unitsPerOne < 2 ^ 23 * den * unitsPerOne :=
          Nat.mul_lt_mul_of_pos_right small unitsPerOne_pos
      _ = 2 ^ 23 * unitsPerOne * den := by ring
  have places : excess num den + 30 ≤ unitPlaces := by
    unfold excess
    by_cases zero : num * unitsPerOne / den = 0
    · rw [zero, Nat.log2_zero]
      omega
    · have bits := (Nat.log2_lt zero).mpr floor
      omega
  calc 2 ^ excess num den * 2 ^ 30 = 2 ^ (excess num den + 30) := (Nat.pow_add ..).symm
    _ ≤ 2 ^ unitPlaces := Nat.pow_le_pow_right Nat.two_pos places
    _ = unitsPerOne := unitsPerOne_eq.symm

theorem halfEven_nearestUnits (hden : 0 < den) (small : num < 2 ^ 23 * den)
    (whole : num * 10 ^ 9 = n * den) :
    halfEven (nearestUnits num den * 10 ^ 9) unitsPerOne = n := by
  -- The last place is less than a nanosecond, and the rounding moved by half of it at most.
  have place : 2 ^ excess num den * 10 ^ 9 < unitsPerOne :=
    calc 2 ^ excess num den * 10 ^ 9 < 2 ^ excess num den * 2 ^ 30 :=
          Nat.mul_lt_mul_of_pos_left (by decide) (Nat.two_pow_pos _)
      _ ≤ unitsPerOne := two_pow_excess_mul_le hden small
  have value : num * unitsPerOne * 10 ^ 9 = n * unitsPerOne * den := by
    rw [Nat.mul_right_comm, whole]
    ring
  obtain ⟨high, low⟩ := @nearestUnits_near num den hden
  obtain ⟨units, same⟩ : ∃ units : Nat, nearestUnits num den = units := ⟨_, rfl⟩
  rw [same] at high low ⊢
  have above : 2 * (units * 10 ^ 9) ≤
      2 * (n * unitsPerOne) + 2 ^ excess num den * 10 ^ 9 := by
    apply Nat.le_of_mul_le_mul_right _ hden
    calc 2 * (units * 10 ^ 9) * den
        = 2 * (den * units) * 10 ^ 9 := by ring
      _ ≤ (2 * (num * unitsPerOne) + den * 2 ^ excess num den) * 10 ^ 9 :=
          Nat.mul_le_mul_right _ high
      _ = 2 * (num * unitsPerOne * 10 ^ 9) + 2 ^ excess num den * 10 ^ 9 * den := by ring
      _ = (2 * (n * unitsPerOne) + 2 ^ excess num den * 10 ^ 9) * den := by
          rw [value]
          ring
  have below : 2 * (n * unitsPerOne) ≤
      2 * (units * 10 ^ 9) + 2 ^ excess num den * 10 ^ 9 := by
    apply Nat.le_of_mul_le_mul_right _ hden
    calc 2 * (n * unitsPerOne) * den = 2 * (num * unitsPerOne * 10 ^ 9) := by
          rw [value]
          ring
      _ = 2 * (num * unitsPerOne) * 10 ^ 9 := by ring
      _ ≤ (2 * (den * units) + den * 2 ^ excess num den) * 10 ^ 9 :=
          Nat.mul_le_mul_right _ low
      _ = (2 * (units * 10 ^ 9) + 2 ^ excess num den * 10 ^ 9) * den := by ring
  exact halfEven_eq_of_near (by omega) (by omega)

theorem nearestUnits_lt_unitsLimit (hden : 0 < den) (small : num < 2 ^ 23 * den) :
    nearestUnits num den < unitsLimit := by
  have limit : 2 ^ 24 < 2 ^ limitPlaces := Nat.pow_lt_pow_right Nat.one_lt_two (by decide)
  have value : num * unitsPerOne ≤ 2 ^ 23 * (den * unitsPerOne) := by
    rw [← Nat.mul_assoc]
    exact Nat.mul_le_mul_right _ (Nat.le_of_lt small)
  have place : den * 2 ^ excess num den ≤ den * unitsPerOne :=
    Nat.mul_le_mul_left _ (Nat.le_trans (Nat.le_mul_of_pos_right _ (by decide))
      (two_pow_excess_mul_le hden small))
  have high := (@nearestUnits_near num den hden).1
  have near : den * nearestUnits num den ≤ den * (2 ^ 24 * unitsPerOne) := by
    rw [Nat.mul_left_comm den]
    omega
  have less : 2 ^ 24 * unitsPerOne < unitsLimit := by
    rw [unitsLimit_eq]
    exact Nat.mul_lt_mul_of_pos_right limit unitsPerOne_pos
  exact Nat.lt_of_le_of_lt (Nat.le_of_mul_le_mul_left near hden) less

end

namespace Plain
variable {d : Plain} (small : d.value < 2 ^ 23)
include small

theorem digits_lt : natOfDigits (d.whole ++ d.fraction) < 2 ^ 23 * 10 ^ d.fraction.length := by
  rw [d.value_eq, div_lt_iff₀ d.scale_pos] at small
  exact_mod_cast small

theorem nanoseconds_lt : d.nanoseconds < Nat.pow 2 64 * Nat.pow 10 9 := by
  have less : (d.nanoseconds : ℚ) < 2 ^ 23 * 10 ^ 9 := by
    rw [d.nanoseconds_cast]
    exact mul_lt_mul_of_pos_right small (by norm_num)
  exact Nat.lt_trans (by exact_mod_cast less) (by decide)

theorem ofNumeral?_eq : Duration.ofNumeral?
    (.finite false (natOfDigits (d.whole ++ d.fraction)) (0 - d.fraction.length)) =
      some ⟨d.nanoseconds, nanoseconds_lt small⟩ := by
  have digits : numerator (natOfDigits (d.whole ++ d.fraction)) (0 - d.fraction.length) =
      natOfDigits (d.whole ++ d.fraction) := by
    rw [numerator, show (0 - d.fraction.length : Int).toNat = 0 by omega, Nat.pow_zero, Nat.mul_one]
  have places : denominator (0 - d.fraction.length) = 10 ^ d.fraction.length := by
    rw [denominator, show (-(0 - d.fraction.length : Int)).toNat = d.fraction.length by omega]
  have power : 0 < 10 ^ d.fraction.length := Nat.pow_pos (by decide)
  have finite := nearestUnits_lt_unitsLimit power (digits_lt small)
  have rounded := halfEven_nearestUnits power (digits_lt small) d.mul_eq_nanoseconds_mul
  have time : Duration.ofUnits? (nearestUnits (natOfDigits (d.whole ++ d.fraction))
      (10 ^ d.fraction.length)) = Duration.ofNanoseconds? d.nanoseconds :=
    congrArg Duration.ofNanoseconds? rounded
  simp only [Duration.ofNumeral?, Bool.false_eq_true, if_false]
  rw [unitsOf?_eq, digits, places, nearest?_of_lt finite, Option.bind_some, time,
    Duration.ofNanoseconds?, dif_pos (nanoseconds_lt small)]

end Plain

end Decimal

namespace Wait
open Decimal

/-- A plain decimal below 2²³ is exactly the time that it says, with blanks around it or without. -/
theorem parseSeconds_plain (d : Plain) (small : d.value < 2 ^ 23) {before after : Text}
    (hb : ∀ c ∈ before, Text.isBlank c = true) (ha : ∀ c ∈ after, Text.isBlank c = true) :
    ∃ e, parseSeconds (before ++ d.text ++ after) = .ok e ∧
      (e.nanoseconds : ℚ) = d.value * 10 ^ 9 ∧ e.seconds = ⌊d.value⌋₊ ∧
      e.subsecond = natOfDigits d.padded := by
  refine ⟨⟨d.nanoseconds, Plain.nanoseconds_lt small⟩, ?_, d.nanoseconds_cast, ?_, ?_⟩
  · rw [parseSeconds_eq_ok_iff, Duration.ofText?, d.trim_text hb ha,
      ofText?_eq_some_iff.mpr d.spells, Option.bind_some, Plain.ofNumeral?_eq small]
  · rw [d.floor_value]
    show d.nanoseconds / 10 ^ 9 = _
    rw [Plain.nanoseconds, Nat.add_comm, Nat.add_mul_div_right _ _ (by decide),
      Nat.div_eq_of_lt d.padded_lt, Nat.zero_add]
  · show d.nanoseconds % 10 ^ 9 = _
    rw [Plain.nanoseconds, Nat.add_comm, Nat.add_mul_mod_self_right, Nat.mod_eq_of_lt d.padded_lt]

def lastPlain : Plain where
  plus := true
  whole := "08388607".toList
  places := some "999999999".toList
  whole_ne_nil := by decide
  whole_digits := List.all_eq_true.mp (by decide)
  places_digits := by
    rintro p ⟨⟩
    exact List.all_eq_true.mp (by decide)
  places_length := by
    rintro p ⟨⟩
    decide

theorem parseSeconds_last : lastPlain.value < 2 ^ 23 ∧
    ∃ e, parseSeconds "\t+08388607.999999999 ".toList = .ok e ∧
      e.seconds = 8388607 ∧ e.subsecond = 999999999 := by
  have whole : natOfDigits lastPlain.whole = 8388607 := by decide
  have fraction : natOfDigits lastPlain.fraction = 999999999 := by decide
  have places : lastPlain.fraction.length = 9 := by decide
  have small : lastPlain.value < 2 ^ 23 := by
    rw [Plain.value, whole, fraction, places]
    norm_num
  obtain ⟨e, read, -, seconds, subsecond⟩ := @parseSeconds_plain lastPlain small
    ['\t'] [' '] (List.forall_mem_singleton.mpr rfl) (List.forall_mem_singleton.mpr rfl)
  refine ⟨small, e, read, ?_, subsecond⟩
  rw [seconds, lastPlain.floor_value, whole]

end Wait

end SkillHost
