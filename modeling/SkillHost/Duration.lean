import SkillHost.Decimal.Numeral
import SkillHost.Text.Blank

/-! Lengths of time in whole nanoseconds, below 2⁶⁴ seconds. -/
namespace SkillHost

structure Duration where
  nanoseconds : Nat
  bounded : nanoseconds < Nat.pow 2 64 * Nat.pow 10 9
  deriving DecidableEq

namespace Duration

def zero : Duration := ⟨0, by decide⟩

def seconds (d : Duration) : Nat := d.nanoseconds / Nat.pow 10 9

def subsecond (d : Duration) : Nat := d.nanoseconds % Nat.pow 10 9

theorem seconds_lt (d : Duration) : d.seconds < Nat.pow 2 64 :=
  Nat.div_lt_of_lt_mul (by rw [Nat.mul_comm]; exact d.bounded)

theorem subsecond_lt (d : Duration) : d.subsecond < Nat.pow 10 9 :=
  Nat.mod_lt _ (by decide)

def milliseconds (d : Duration) : Nat := (d.nanoseconds + 999999) / Nat.pow 10 6

def ofNanoseconds? (n : Nat) : Option Duration :=
  if h : n < Nat.pow 2 64 * Nat.pow 10 9 then some ⟨n, h⟩ else none

/-- The nearest whole nanoseconds of a double precision number of seconds, ties to even. -/
def ofUnits? (units : Decimal.Units) : Option Duration :=
  ofNanoseconds? (Decimal.halfEven (units * Nat.pow 10 9) Decimal.unitsPerOne)

/-- Below zero there is no time to wait. What is no number, or infinite, is no length of time. -/
def ofNumeral? : Decimal.Numeral → Option Duration
  | .notANumber => none
  | .infinity negative => if negative then some zero else none
  | .finite negative digits exponent =>
    if negative then some zero else (Decimal.unitsOf? digits exponent).bind ofUnits?

def ofText? (t : Text) : Option Duration :=
  (Decimal.Numeral.ofText? (Text.trim t)).bind ofNumeral?

def fractionText (width n : Nat) : Text :=
  let digits := ((Text.padded width n).reverse.dropWhile (· = '0')).reverse
  if digits.isEmpty then [] else '.' :: digits

def text (d : Duration) : Text :=
  let n := d.nanoseconds
  let inUnit (zeros : Nat) (name : Text) : Text :=
    Text.ofNat (n / Nat.pow 10 zeros) ++ fractionText zeros (n % Nat.pow 10 zeros) ++ name
  if Nat.pow 10 9 ≤ n then inUnit 9 ['s']
  else if Nat.pow 10 6 ≤ n then inUnit 6 ['m', 's']
  else if Nat.pow 10 3 ≤ n then inUnit 3 ['µ', 's']
  else Text.ofNat n ++ ['n', 's']

end Duration

end SkillHost
