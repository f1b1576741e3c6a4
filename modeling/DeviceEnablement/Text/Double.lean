/-
  The range of doubles.

  A double has 53 significant bits, and the numbers from `bound` on are rounded to infinity.
-/

namespace DeviceEnablement.Double

/-- `n` rounded to the nearest number of at most 53 significant bits, a tie to the even one. -/
def round (n : Nat) : Nat :=
  let unit := Nat.pow 2 (n.log2 + 1 - 53)
  let quotient := n / unit
  let remainder := n % unit
  if 2 * remainder > unit ∨ (2 * remainder = unit ∧ quotient % 2 = 1) then (quotient + 1) * unit
  else quotient * unit

/-- The least number that is rounded to infinity: half a unit above the greatest double. -/
def bound : Nat := Nat.pow 2 1024 - Nat.pow 2 970

end DeviceEnablement.Double
