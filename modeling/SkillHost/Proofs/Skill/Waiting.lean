import Mathlib.Algebra.Order.Field.Rat
import Mathlib.Algebra.Order.Monoid.WithTop
import SkillHost.Proofs.Decimal.Grammar
import SkillHost.Proofs.Decimal.Nearest
import SkillHost.Skill.Wait

/-! Lengths of time from texts. The length grows with the exact value of the numeral, through both
roundings and up to infinity, and below zero it is zero; a text that is no numeral has none. -/
namespace SkillHost

namespace Decimal

/-- The exact value of a numeral; infinity lies beyond all numbers, on the side of its sign. -/
def Numeral.value? : Numeral → Option (WithBot (WithTop ℚ))
  | .finite negative digits exponent =>
    let size : ℚ := digits * 10 ^ exponent
    some ((if negative then -size else size : ℚ) : WithTop ℚ)
  | .infinity negative => some (if negative then ⊥ else ⊤)
  | .notANumber => none

theorem size_eq (digits : Nat) (exponent : Int) :
    (digits : ℚ) * 10 ^ exponent = (numerator digits exponent : ℚ) / denominator exponent := by
  unfold numerator denominator
  rcases Int.le_total 0 exponent with nonneg | nonpos
  · obtain ⟨n, rfl⟩ := Int.eq_ofNat_of_zero_le nonneg
    simp
  · obtain ⟨n, hn⟩ := Int.eq_ofNat_of_zero_le (Int.neg_nonneg_of_nonpos nonpos)
    have whole : exponent.toNat = 0 := by omega
    rw [hn, whole, ← Int.neg_neg exponent, hn]
    simp [div_eq_mul_inv]

theorem size_le_iff {digits digits' : Nat} {exponent exponent' : Int} :
    (digits : ℚ) * 10 ^ exponent ≤ digits' * 10 ^ exponent' ↔
      numerator digits exponent * denominator exponent' ≤
        numerator digits' exponent' * denominator exponent := by
  have pos : ∀ e, (0 : ℚ) < denominator e := fun e => by exact_mod_cast denominator_pos e
  rw [size_eq, size_eq, div_le_div_iff₀ (pos _) (pos _)]
  exact_mod_cast Iff.rfl

theorem size_nonneg (digits : Nat) (exponent : Int) : (0 : ℚ) ≤ digits * 10 ^ exponent :=
  mul_nonneg (Nat.cast_nonneg _) (zpow_nonneg (by decide) _)

theorem digits_eq_zero {digits : Nat} {exponent : Int} (h : (digits : ℚ) * 10 ^ exponent ≤ 0) :
    digits = 0 := by
  have power : (10 : ℚ) ^ exponent ≠ 0 := zpow_ne_zero _ (by decide)
  have zero := le_antisymm h (size_nonneg digits exponent)
  rcases mul_eq_zero.mp zero with none | none
  · exact_mod_cast none
  · exact absurd none power

theorem unitsOf?_mono {digits digits' : Nat} {exponent exponent' : Int}
    (h : (digits : ℚ) * 10 ^ exponent ≤ digits' * 10 ^ exponent') {units' : Units}
    (found : unitsOf? digits' exponent' = some units') :
    ∃ units, unitsOf? digits exponent = some units ∧ units ≤ units' := by
  rw [unitsOf?_eq] at found ⊢
  have less := nearestUnits_mono (denominator_pos exponent) (denominator_pos exponent')
    (size_le_iff.mp h)
  rcases Nat.lt_or_ge (nearestUnits (numerator digits' exponent') (denominator exponent'))
    unitsLimit with finite | large
  · rw [nearest?_of_lt finite] at found
    cases found
    exact ⟨_, nearest?_of_lt (Nat.lt_of_le_of_lt less finite), less⟩
  · rw [nearest?_of_le large] at found
    cases found

end Decimal

namespace Duration
open Decimal

theorem ofNanoseconds?_mono {n n' : Nat} (h : n ≤ n') {d : Duration}
    (found : ofNanoseconds? n' = some d) :
    ∃ c, ofNanoseconds? n = some c ∧ c.nanoseconds ≤ d.nanoseconds := by
  unfold ofNanoseconds? at found ⊢
  split at found
  · rename_i bounded
    cases found
    exact ⟨⟨n, Nat.lt_of_le_of_lt h bounded⟩, dif_pos _, h⟩
  · cases found

theorem ofUnits?_mono {units units' : Units} (h : units ≤ units') {d : Duration}
    (found : ofUnits? units' = some d) :
    ∃ c, ofUnits? units = some c ∧ c.nanoseconds ≤ d.nanoseconds :=
  ofNanoseconds?_mono (halfEven_mono (Nat.mul_le_mul_right _ h) _) found

theorem ofUnits?_zero : ofUnits? 0 = some zero := by
  have none := halfEven_mul 0 unitsPerOne_pos
  rw [Nat.zero_mul] at none
  rw [ofUnits?, Nat.zero_mul, none]
  rfl

theorem ofNumeral?_zero (exponent : Int) : ofNumeral? (.finite false 0 exponent) = some zero := by
  simp only [ofNumeral?, unitsOf?, Bool.false_eq_true, if_false, if_true, Option.bind_some,
    ofUnits?_zero]

end Duration

namespace Decimal

theorem Numeral.cases_of_pos {n : Numeral} {a : WithBot (WithTop ℚ)} (value : n.value? = some a)
    (pos : 0 < a) : n = .infinity false ∧ a = ⊤ ∨ ∃ digits exponent,
      n = .finite false digits exponent ∧ a = ((digits * 10 ^ exponent : ℚ) : WithTop ℚ) := by
  cases n with
  | notANumber => cases value
  | infinity negative =>
    cases negative with
    | false =>
      cases value
      exact .inl ⟨rfl, rfl⟩
    | true =>
      cases value
      exact absurd pos not_lt_bot
  | finite negative digits exponent =>
    cases negative with
    | false =>
      cases value
      exact .inr ⟨digits, exponent, rfl, rfl⟩
    | true =>
      cases value
      have size := size_nonneg digits exponent
      have below : (0 : ℚ) < -(digits * 10 ^ exponent) := by exact_mod_cast pos
      exact absurd (neg_pos.mp below) (not_lt.mpr size)

end Decimal

namespace Duration
open Decimal

theorem ofNumeral?_of_nonpos {n : Numeral} {a : WithBot (WithTop ℚ)} (value : n.value? = some a)
    (h : a ≤ 0) : ofNumeral? n = some zero := by
  cases n with
  | notANumber => cases value
  | infinity negative =>
    cases negative with
    | true => rfl
    | false =>
      cases value
      exact absurd h (by decide)
  | finite negative digits exponent =>
    cases negative with
    | true => rfl
    | false =>
      cases value
      have none : digits = 0 := @digits_eq_zero digits exponent (by exact_mod_cast h)
      rw [none, ofNumeral?_zero]

theorem ofNumeral?_mono {m n : Numeral} {a b : WithBot (WithTop ℚ)} (ha : m.value? = some a)
    (hb : n.value? = some b) (h : a ≤ b) {d : Duration} (found : ofNumeral? n = some d) :
    ∃ c, ofNumeral? m = some c ∧ c.nanoseconds ≤ d.nanoseconds := by
  rcases le_or_gt a 0 with nonpos | pos
  · exact ⟨zero, ofNumeral?_of_nonpos ha nonpos, Nat.zero_le _⟩
  obtain ⟨rfl, -⟩ | ⟨digits', exponent', rfl, rfl⟩ := Numeral.cases_of_pos hb (lt_of_lt_of_le pos h)
  · cases found
  obtain ⟨rfl, rfl⟩ | ⟨digits, exponent, rfl, rfl⟩ := Numeral.cases_of_pos ha pos
  · exact absurd (WithBot.coe_le_coe.mp h) (not_le_of_gt (WithTop.coe_lt_top _))
  -- Both are numbers without a minus now, and neither rounding turns their order round.
  have size : (digits * 10 ^ exponent : ℚ) ≤ digits' * 10 ^ exponent' := by exact_mod_cast h
  simp only [ofNumeral?, Bool.false_eq_true, if_false] at found ⊢
  obtain ⟨units', near', found'⟩ := Option.bind_eq_some_iff.mp found
  obtain ⟨units, near, less⟩ := unitsOf?_mono size near'
  obtain ⟨c, found, shorter⟩ := ofUnits?_mono less found'
  exact ⟨c, Option.bind_eq_some_iff.mpr ⟨units, near, found⟩, shorter⟩

end Duration

namespace Wait
open Decimal

/-- A text denotes a value: between blanks it is a numeral of that value. -/
def Denotes (t : Text) (a : WithBot (WithTop ℚ)) : Prop :=
  ∃ n, Spells (Text.trim t) n ∧ n.value? = some a

theorem ofText?_of_denotes {t : Text} {a : WithBot (WithTop ℚ)} (h : Denotes t a) :
    ∃ n, n.value? = some a ∧ Duration.ofText? t = Duration.ofNumeral? n := by
  obtain ⟨n, spelled, value⟩ := h
  refine ⟨n, value, ?_⟩
  rw [Duration.ofText?, ofText?_eq_some_iff.mpr spelled, Option.bind_some]

theorem ofText?_of_not_denotes {t : Text} (h : ¬ ∃ a, Denotes t a) :
    Duration.ofText? t = none := by
  rw [Duration.ofText?, Option.bind_eq_none_iff]
  intro n read
  rw [ofText?_eq_some_iff] at read
  cases value : n.value? with
  | some a => exact absurd ⟨a, n, read, value⟩ h
  | none =>
    cases n with
    | notANumber => rfl
    | infinity negative => cases value
    | finite negative digits exponent => cases value

theorem parseSeconds_eq_ok_iff {t : Text} {d : Duration} :
    parseSeconds t = .ok d ↔ Duration.ofText? t = some d := by
  unfold parseSeconds
  cases Duration.ofText? t <;> simp

def refusal : SkillError := .invalidArgument "seconds text must be a number".toList

structure Waits (t : Text) : Prop where
  mono : ∀ d, parseSeconds t = .ok d → ∀ s a b, Denotes s a → Denotes t b → a ≤ b →
    ∃ c, parseSeconds s = .ok c ∧ c.nanoseconds ≤ d.nanoseconds
  clamped : ∀ a, Denotes t a → a ≤ 0 → parseSeconds t = .ok .zero
  bounded : ∀ d, parseSeconds t = .ok d → d.subsecond < 10 ^ 9 ∧ d.seconds < 2 ^ 64 ∧
    d.nanoseconds = d.seconds * 10 ^ 9 + d.subsecond
  /-- A text that is no numeral is refused, and so is one that is no number. -/
  rejected : (¬ ∃ a, Denotes t a) → parseSeconds t = .error refusal
  refused : ∀ e, parseSeconds t = .error e → e = refusal

example : parseSeconds "\t-1e400".toList = .ok .zero ∧
    parseSeconds "1e400".toList = .error refusal ∧
    parseSeconds "NaN".toList = .error refusal := by
  decide +kernel

end Wait

end SkillHost
