import SkillHost.Decimal.Digits
import SkillHost.Decimal.Shortest

/-! Numbers of JSON. Whole numbers of 64 bits are kept exactly; every other number is read as a
double precision number. -/
namespace SkillHost.Json

inductive Number where
  | integer (value : Int)
  | double (negative : Bool) (units : Decimal.Units)
  deriving DecidableEq

structure NumberParts where
  negative : Bool
  whole : Text
  fraction : Option Text
  exponent : Option (Bool × Text)

def digitsOf (t : Text) : Text × Text := (t.takeWhile Char.isDigit, t.dropWhile Char.isDigit)

def someDigits? (t : Text) : Option (Text × Text) :=
  let (digits, rest) := digitsOf t
  if digits.isEmpty then none else some (digits, rest)

def readExponent? : Text → Option (Option (Bool × Text))
  | [] => some none
  | c :: rest =>
    if c = 'e' ∨ c = 'E' then
      let (negative, digits) := match rest with
        | '+' :: more => (false, more)
        | '-' :: more => (true, more)
        | _ => (false, rest)
      match someDigits? digits with
      | some (digits, []) => some (some (negative, digits))
      | _ => none
    else none

/-- Splits the text of a number. A zero stands alone before the point, and a point or an `e` is
followed by digits. -/
def NumberParts.ofText? (t : Text) : Option NumberParts := do
  let (negative, unsigned) := match t with
    | '-' :: rest => (true, rest)
    | _ => (false, t)
  let (whole, rest) ← someDigits? unsigned
  if whole.head? = some '0' ∧ whole ≠ ['0'] then none
  else match rest with
    | '.' :: rest =>
      let (fraction, rest) ← someDigits? rest
      return ⟨negative, whole, some fraction, ← readExponent? rest⟩
    | _ => return ⟨negative, whole, none, ← readExponent? rest⟩

def significandLimit : Nat := Nat.pow 2 64

def absorb (significand : Nat) : Text → Nat × Text
  | [] => (significand, [])
  | c :: rest =>
    let next := significand * 10 + Decimal.digitValue c
    if next < significandLimit then absorb next rest else (significand, c :: rest)

def maxPower : Nat := 308

def powerUnits (k : Nat) : Decimal.Units := Decimal.nearestUnits (Nat.pow 10 k) 1

/-- `significand · 10^exponent` in steps that each round: the significand, the power of ten, and
their product or quotient. It fails where the product is too large. Below 10⁻⁶¹⁶ nothing is
left of a significand of 64 bits. -/
def scaled? (significand : Nat) (exponent : Int) : Option Decimal.Units :=
  let start := Decimal.nearestUnits significand 1
  let quotient (units : Decimal.Units) (k : Nat) := Decimal.nearestUnits units (powerUnits k)
  if 0 ≤ exponent then
    if significand = 0 then some 0
    else if maxPower < exponent.toNat then none
    else Decimal.nearest? (start * powerUnits exponent.toNat)
      (Decimal.unitsPerOne * Decimal.unitsPerOne)
  else
    let k := (-exponent).toNat
    if k ≤ maxPower then some (quotient start k)
    else if k ≤ 2 * maxPower then some (quotient (quotient start maxPower) (k - maxPower))
    else some 0

/-- The number that the parts denote. A whole number of 64 bits is kept; a negative zero is a
double precision number, and so is every number with a fraction or an exponent. Digits that do
not fit into the significand are dropped, and those before the point count for the exponent. -/
def NumberParts.value? (parts : NumberParts) : Option Number :=
  let (whole, dropped) := absorb 0 parts.whole
  let double (significand : Nat) (exponent : Int) : Option Number :=
    (scaled? significand exponent).map (.double parts.negative)
  match parts.fraction, parts.exponent with
  | none, none =>
    if !dropped.isEmpty then double whole dropped.length
    else if !parts.negative then some (.integer whole)
    else if 0 < whole ∧ whole ≤ Nat.pow 2 63 then some (.integer (-whole))
    else double whole 0
  | fraction, exponent =>
    let digits := fraction.getD []
    let (significand, left) := absorb whole digits
    let shift : Int := (dropped.length : Int) - (digits.length - left.length : Nat)
    let power : Int := match exponent with
      | none => 0
      | some (negative, digits) =>
        if negative then -(Decimal.natOfDigits digits : Int) else Decimal.natOfDigits digits
    double significand (shift + power)

def Number.positional : Decimal.Positional := ⟨-4, 16⟩

def Number.text : Number → Text
  | integer i => Decimal.intText i
  | double negative units =>
    (if negative then ['-'] else []) ++ Decimal.unitsText positional units

end SkillHost.Json
