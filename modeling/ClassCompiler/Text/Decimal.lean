/-! Decimal digits of ASCII and the numbers they spell. -/

namespace ClassCompiler.Text

def digitValue (digit : Char) : Nat := digit.toNat - '0'.toNat

/-- The number that digits spell; leading zeros do not matter, and no digits spell zero. -/
def decimal (digits : List Char) : Nat :=
  digits.foldl (fun value digit => 10 * value + digitValue digit) 0

end ClassCompiler.Text
