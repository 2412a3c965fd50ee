import SkillHost.Decimal.Binary64
import SkillHost.Decimal.Digits

/-! Numerals: the texts that denote a number. Digits may have a point among them, before or after
them, and an exponent; there are words for infinity and for what is no number. -/
namespace SkillHost.Decimal

inductive Numeral where
  /-- The number `digits · 10^exponent`, or its negative. -/
  | finite (negative : Bool) (digits : Nat) (exponent : Int)
  | infinity (negative : Bool)
  | notANumber
  deriving DecidableEq

def splitSign : Text → Bool × Text
  | '-' :: rest => (true, rest)
  | '+' :: rest => (false, rest)
  | t => (false, t)

def readExponent? : Text → Option Int
  | [] => some 0
  | c :: rest =>
    let (negative, digits) := splitSign rest
    if (c = 'e' ∨ c = 'E') ∧ digits ≠ [] ∧ digits.all Char.isDigit then
      some (if negative then -(natOfDigits digits : Int) else natOfDigits digits)
    else none

def readFinite? (negative : Bool) (t : Text) : Option Numeral :=
  let whole := t.takeWhile Char.isDigit
  let (fraction, rest) := match t.dropWhile Char.isDigit with
    | '.' :: rest => (rest.takeWhile Char.isDigit, rest.dropWhile Char.isDigit)
    | rest => ([], rest)
  if whole.isEmpty && fraction.isEmpty then none
  else (readExponent? rest).map fun exponent =>
    .finite negative (natOfDigits (whole ++ fraction)) (exponent - fraction.length)

def infinityWords : List Text :=
  [['i', 'n', 'f'], ['i', 'n', 'f', 'i', 'n', 'i', 't', 'y']]

def notANumberWord : Text := ['n', 'a', 'n']

def Numeral.ofText? (t : Text) : Option Numeral :=
  let (negative, unsigned) := splitSign t
  let word := unsigned.map Char.toLower
  if infinityWords.contains word then some (.infinity negative)
  else if word = notANumberWord then some .notANumber
  else readFinite? negative unsigned

def powerLimit : Nat := 400

/-- The double precision number nearest to `digits · 10^exponent`, if that is finite. A number of
10⁴⁰⁰ or more is infinite. One below 10⁻³⁹⁹ is zero; as the digits amount to less than ten to the
power of their bit length, that is so when the exponent is that far below. -/
def unitsOf? (digits : Nat) (exponent : Int) : Option Units :=
  if digits = 0 then some 0
  else if 0 ≤ exponent then
    if powerLimit < exponent.toNat then none
    else nearest? (digits * Nat.pow 10 exponent.toNat) 1
  else
    if powerLimit + digits.log2 < (-exponent).toNat then some 0
    else nearest? digits (Nat.pow 10 (-exponent).toNat)

end SkillHost.Decimal
