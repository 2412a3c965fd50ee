import SkillHost.Decimal.Rounding

/-! Double precision numbers without sign. Each finite one is a multiple of 2⁻¹⁰⁷⁴ and is kept as
that multiple, so that rounding is arithmetic on natural numbers. -/
namespace SkillHost.Decimal

/-- The multiple of 2⁻¹⁰⁷⁴ that a number is. -/
abbrev Units := Nat

def unitsPerOne : Nat := Nat.pow 2 1074

def unitsLimit : Nat := Nat.pow 2 1024 * unitsPerOne

/-- The nearest number with at most 53 significant bits, as if there were no largest one. Below
2⁵³ units every multiple is one of these numbers; above, with `k` bits too many, every
multiple of 2ᵏ. -/
def nearestUnits (num den : Nat) : Units :=
  let scaled := num * unitsPerOne
  let floor := scaled / den
  if floor < Nat.pow 2 53 then halfEven scaled den
  else
    let k := floor.log2 - 52
    halfEven scaled (den * Nat.pow 2 k) * Nat.pow 2 k

def nearest? (num den : Nat) : Option Units :=
  let units := nearestUnits num den
  if units < unitsLimit then some units else none

end SkillHost.Decimal
