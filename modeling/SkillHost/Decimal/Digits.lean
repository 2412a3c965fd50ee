import SkillHost.Text.Basic

/-! Decimal digits and the numbers that they write. -/
namespace SkillHost.Decimal

def digitValue (c : Char) : Nat := c.toNat - '0'.toNat

def natOfDigits (digits : Text) : Nat := digits.foldl (fun n c => n * 10 + digitValue c) 0

end SkillHost.Decimal
