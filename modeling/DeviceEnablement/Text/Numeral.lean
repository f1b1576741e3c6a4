/-
  Numerals: digits in a base, with an optional plus sign in front.
-/
import DeviceEnablement.Text.Hexadecimal

namespace DeviceEnablement.Numeral

/-- The value of a digit in a base of at most sixteen. -/
def digit? (base : Nat) (c : Char) : Option Nat :=
  (Hexadecimal.digit? c).filter (· < base)

/-- The number that digits continue, given the number `value` that those before them make. -/
def continue? (base value : Nat) : List Char → Option Nat
  | [] => some value
  | c :: rest =>
    match digit? base c with
    | some d => continue? base (base * value + d) rest
    | none => none

/-- The number that digits make, at least one of them. -/
def digits? (base : Nat) : List Char → Option Nat
  | [] => none
  | digits => continue? base 0 digits

/-- The number written by digits, a plus sign in front being allowed. -/
def unsigned? (base : Nat) : List Char → Option Nat
  | '+' :: digits => digits? base digits
  | digits => digits? base digits

/-- The decimal number in a text, if it is at most `max`. -/
def natUpTo? (max : Nat) (text : String) : Option Nat :=
  (unsigned? 10 text.toList).filter (· ≤ max)

end DeviceEnablement.Numeral
