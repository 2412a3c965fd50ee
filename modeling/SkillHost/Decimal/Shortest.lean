import SkillHost.Decimal.Binary64
import SkillHost.Text.Basic

/-! The shortest decimal that reads back as a given double precision number, and its text. -/
namespace SkillHost.Decimal

/-- The number 0.d₁d₂… · 10^point with digits `digits`. -/
structure Scientific where
  digits : Text
  point : Int

/-- The place of the decimal point: the `point` with 10^(point-1) ≤ value < 10^point. Every
value is at least 10⁻³²⁴, so 400 more places show a digit of it. -/
def pointOf (units : Units) : Int :=
  (Nat.toDigits 10 (units * Nat.pow 10 400 / unitsPerOne)).length - 400

def gridPoint (count : Nat) (place : Int) : Nat × Nat :=
  (count * Nat.pow 10 place.toNat, Nat.pow 10 (-place).toNat)

/-- Of the two neighbours of the value on the grid of decimals with `length` digits, the nearer
one of those that read back. -/
def onGrid? (units : Units) (length : Nat) : Option Scientific :=
  let point := pointOf units
  let place := point - length
  let (num, den) := (units * Nat.pow 10 (-place).toNat, unitsPerOne * Nat.pow 10 place.toNat)
  let below := num / den
  let reads (count : Nat) : Bool :=
    let (n, d) := gridPoint count place
    nearestUnits n d == units
  let shown (count : Nat) : Scientific :=
    let digits := Text.ofNat count
    ⟨digits, place + digits.length⟩
  let nearerAbove : Bool := den < 2 * (num % den) ∨ (2 * (num % den) = den ∧ below % 2 = 1)
  match reads below, reads (below + 1) with
  | true, true => some (shown (if nearerAbove then below + 1 else below))
  | true, false => some (shown below)
  | false, true => some (shown (below + 1))
  | false, false => none

/-- The shortest decimal of a number other than zero, without zeros at its end. Seventeen digits
are always enough. -/
def shortest (units : Units) : Scientific :=
  let found := (List.range 17).findSome? fun n => onGrid? units (n + 1)
  let s := found.getD ⟨[], 0⟩
  ⟨(s.digits.reverse.dropWhile (· = '0')).reverse, s.point⟩

/-- Which numbers are written without an exponent: those with the point from `fewestPlaces` up
to `mostPlaces` places after the start. -/
structure Positional where
  fewestPlaces : Int
  mostPlaces : Int

def intText (i : Int) : Text :=
  if i < 0 then '-' :: Text.ofNat i.natAbs else Text.ofNat i.natAbs

def Scientific.text (range : Positional) (s : Scientific) : Text :=
  let count : Int := s.digits.length
  if range.fewestPlaces ≤ s.point ∧ s.point ≤ range.mostPlaces then
    if s.point ≤ 0 then ['0', '.'] ++ List.replicate (-s.point).toNat '0' ++ s.digits
    else if count ≤ s.point then
      s.digits ++ List.replicate (s.point - count).toNat '0' ++ ['.', '0']
    else s.digits.take s.point.toNat ++ '.' :: s.digits.drop s.point.toNat
  else
    let exponent := 'e' :: intText (s.point - 1)
    match s.digits with
    | [] => ['0', '.', '0']
    | [d] => d :: exponent
    | d :: rest => d :: '.' :: rest ++ exponent

def unitsText (range : Positional) (units : Units) : Text :=
  if units = 0 then ['0', '.', '0'] else (shortest units).text range

end SkillHost.Decimal
