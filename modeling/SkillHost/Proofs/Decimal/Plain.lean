import Mathlib.Algebra.Order.Floor.Semifield
import Mathlib.Data.List.Induction
import Mathlib.Data.Rat.Floor
import SkillHost.Proofs.Decimal.Grammar
import SkillHost.Proofs.Text.Parts

/-! Plain decimals: digits and, after a point, nine digits at most. The value of such a decimal is a
whole number of parts in 10⁹, which its digits write when zeros fill them up. -/
namespace SkillHost.Decimal

theorem natOfDigits_concat (t : Text) (c : Char) :
    natOfDigits (t ++ [c]) = natOfDigits t * 10 + digitValue c := by
  simp [natOfDigits]

theorem natOfDigits_append (a b : Text) :
    natOfDigits (a ++ b) = natOfDigits a * 10 ^ b.length + natOfDigits b := by
  induction b using List.reverseRecOn with
  | nil => simp [natOfDigits]
  | append_singleton b c ih =>
    rw [← List.append_assoc, natOfDigits_concat, ih, natOfDigits_concat, List.length_append,
      List.length_singleton, Nat.pow_succ]
    ring

theorem natOfDigits_replicate (n : Nat) : natOfDigits (List.replicate n '0') = 0 := by
  induction n with
  | zero => rfl
  | succ n ih => rw [List.replicate_succ', natOfDigits_concat, ih]; rfl

theorem digitValue_lt {c : Char} (h : c.isDigit = true) : digitValue c < 10 := by
  have zero : '0'.toNat = 48 := rfl
  have bounds := isDigit_bounds h
  rw [digitValue]
  omega

theorem natOfDigits_lt {t : Text} (all : AllDigits t) : natOfDigits t < 10 ^ t.length := by
  induction t using List.reverseRecOn with
  | nil => decide
  | append_singleton t c ih =>
    have digit := digitValue_lt (all c (by simp))
    have before := ih fun d mem => all d (by simp [mem])
    rw [natOfDigits_concat, List.length_append, List.length_singleton, Nat.pow_succ]
    omega

theorem AllDigits.not_isBlank {t : Text} (all : AllDigits t) :
    ∀ c ∈ t, Text.isBlank c = false := by
  intro c mem
  have bounds := isDigit_bounds (all c mem)
  exact Text.isBlank_of_bounds (by omega) (by omega)

/-- A decimal without exponent and minus, of nine places or fewer. -/
structure Plain where
  plus : Bool
  whole : Text
  places : Option Text
  whole_ne_nil : whole ≠ []
  whole_digits : AllDigits whole
  places_digits : ∀ p ∈ places, AllDigits p
  places_length : ∀ p ∈ places, p.length ≤ 9

namespace Plain
variable (d : Plain)

def sign : Text := if d.plus then ['+'] else []

def fraction : Text := d.places.getD []

def middle : Text :=
  match d.places with
  | none => []
  | some p => '.' :: p

def text : Text := d.sign ++ (d.whole ++ d.middle)

def value : ℚ := natOfDigits d.whole + natOfDigits d.fraction / 10 ^ d.fraction.length

def padded : Text := d.fraction ++ List.replicate (9 - d.fraction.length) '0'

theorem fractionPart : FractionPart d.middle d.fraction := by
  unfold middle fraction
  cases h : d.places with
  | none => exact .none
  | some p => exact .point (d.places_digits p h)

theorem fraction_digits : AllDigits d.fraction := by
  unfold fraction
  cases h : d.places with
  | none => simp [AllDigits]
  | some p => exact d.places_digits p h

theorem fraction_length : d.fraction.length ≤ 9 := by
  unfold fraction
  cases h : d.places with
  | none => simp
  | some p => exact d.places_length p h

theorem spells : Spells d.text
    (.finite false (natOfDigits (d.whole ++ d.fraction)) (0 - d.fraction.length)) := by
  have signed : Sign d.sign false := by
    unfold sign
    cases d.plus with
    | false => exact .none
    | true => exact .plus
  have nonempty : d.whole ++ d.fraction ≠ [] := by simp [d.whole_ne_nil]
  have number := Unsigned.number d.whole_digits d.fractionPart nonempty .none
  rw [List.append_nil] at number
  exact .finite signed number

/-- The nanoseconds that the digits write, the value being seconds. -/
def nanoseconds : Nat := natOfDigits d.whole * 10 ^ 9 + natOfDigits d.padded

theorem padded_lt : natOfDigits d.padded < 10 ^ 9 := by
  have all : AllDigits d.padded := by
    intro c mem
    rcases List.mem_append.mp mem with digit | zero
    · exact d.fraction_digits c digit
    · rw [List.eq_of_mem_replicate zero]
      rfl
  have bound := natOfDigits_lt all
  have length : d.padded.length = 9 := by
    have short := d.fraction_length
    simp only [padded, List.length_append, List.length_replicate]
    omega
  rwa [length] at bound

theorem nanoseconds_eq :
    d.nanoseconds = natOfDigits (d.whole ++ d.fraction) * 10 ^ (9 - d.fraction.length) := by
  have nine : 10 ^ 9 = 10 ^ d.fraction.length * 10 ^ (9 - d.fraction.length) := by
    rw [← Nat.pow_add, Nat.add_sub_cancel' d.fraction_length]
  rw [nanoseconds, padded, natOfDigits_append, natOfDigits_append, natOfDigits_replicate,
    List.length_replicate, nine]
  ring

theorem scale_pos : (0 : ℚ) < 10 ^ d.fraction.length := pow_pos (by decide) _

theorem value_eq :
    d.value = (natOfDigits (d.whole ++ d.fraction) : ℚ) / 10 ^ d.fraction.length := by
  rw [value, natOfDigits_append, Nat.cast_add, Nat.cast_mul, Nat.cast_pow, Nat.cast_ofNat, add_div,
    mul_div_cancel_right₀ _ d.scale_pos.ne']

theorem mul_eq_nanoseconds_mul : natOfDigits (d.whole ++ d.fraction) * 10 ^ 9 =
    d.nanoseconds * 10 ^ d.fraction.length := by
  rw [d.nanoseconds_eq, Nat.mul_assoc, ← Nat.pow_add, Nat.sub_add_cancel d.fraction_length]

theorem nanoseconds_cast : (d.nanoseconds : ℚ) = d.value * 10 ^ 9 := by
  rw [d.value_eq, div_mul_eq_mul_div, eq_div_iff d.scale_pos.ne']
  exact_mod_cast d.mul_eq_nanoseconds_mul.symm

theorem floor_value : ⌊d.value⌋₊ = natOfDigits d.whole := by
  have part : (natOfDigits d.fraction : ℚ) < 10 ^ d.fraction.length := by
    exact_mod_cast natOfDigits_lt d.fraction_digits
  have nonneg : (0 : ℚ) ≤ natOfDigits d.fraction / 10 ^ d.fraction.length :=
    div_nonneg (Nat.cast_nonneg _) d.scale_pos.le
  have less : (natOfDigits d.fraction : ℚ) / 10 ^ d.fraction.length < 1 :=
    (div_lt_one d.scale_pos).mpr part
  rw [value, Nat.floor_eq_iff (add_nonneg (Nat.cast_nonneg _) nonneg)]
  exact ⟨le_add_of_nonneg_right nonneg, add_lt_add_right less _⟩

theorem not_isBlank : ∀ c ∈ d.text, Text.isBlank c = false := by
  have sign : ∀ c ∈ d.sign, Text.isBlank c = false := by
    unfold Plain.sign
    cases d.plus with
    | false => simp
    | true => exact List.forall_mem_singleton.mpr rfl
  have middle : ∀ c ∈ d.middle, Text.isBlank c = false := by
    unfold Plain.middle
    cases h : d.places with
    | none => simp
    | some p => exact List.forall_mem_cons.mpr ⟨by decide, (d.places_digits p h).not_isBlank⟩
  simp only [text, List.forall_mem_append]
  exact ⟨sign, d.whole_digits.not_isBlank, middle⟩

theorem trim_text {before after : Text} (hb : ∀ c ∈ before, Text.isBlank c = true)
    (ha : ∀ c ∈ after, Text.isBlank c = true) : Text.trim (before ++ d.text ++ after) = d.text :=
  Text.trim_append_append (fun c mem => d.not_isBlank c (List.mem_of_mem_head? mem))
    (fun c mem => d.not_isBlank c (List.mem_of_getLast? mem)) hb ha

end Plain

end SkillHost.Decimal
