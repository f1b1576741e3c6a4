/-
  Hexadecimal text.

  Numbers in messages and error texts are written in lower case after `0x`, padded with zeros to a
  fixed number of digits (`padded`) or not at all (`short`).  Byte strings are written two digits a
  byte without separators (`ofBytes`), and read back by `toBytes?`.
-/
import DeviceEnablement.Wire.Bytes

namespace DeviceEnablement.Hexadecimal

/-- The digits of a number in base sixteen, lower case. -/
def digits (n : Nat) : List Char := Nat.toDigits 16 n

/-- `0x` and the digits of `n`, at least `width` of them. -/
def padded (width n : Nat) : String :=
  let ds := digits n
  String.ofList ('0' :: 'x' :: (List.replicate (width - ds.length) '0' ++ ds))

/-- `0x` and the digits of `n`, as few as possible. -/
def short (n : Nat) : String := padded 1 n

/-- One byte as `0x` and two digits. -/
def byte (b : UInt8) : String := padded 2 b.toNat

/-- The value of one hexadecimal digit of either case. -/
def digit? (c : Char) : Option Nat :=
  if '0' ≤ c ∧ c ≤ '9' then some (c.toNat - '0'.toNat)
  else if 'a' ≤ c ∧ c ≤ 'f' then some (c.toNat - 'a'.toNat + 10)
  else if 'A' ≤ c ∧ c ≤ 'F' then some (c.toNat - 'A'.toNat + 10)
  else none

/-- Two digits a byte, lower case. -/
def ofBytes (bytes : Bytes) : String :=
  String.ofList (bytes.flatMap fun b =>
    [Nat.digitChar (b.toNat / 16), Nat.digitChar (b.toNat % 16)])

/-- Reads pairs of digits onto `acc`, which holds the bytes read so far in reverse. -/
def readPairs (acc : Bytes) : List Char → Option Bytes
  | [] => some acc.reverse
  | high :: low :: rest =>
    match digit? high, digit? low with
    | some h, some l => readPairs (.ofNat (16 * h + l) :: acc) rest
    | _, _ => none
  | [_] => none

/-- The bytes written by pairs of hexadecimal digits. -/
def toBytes? (text : String) : Option Bytes := readPairs [] text.toList

end DeviceEnablement.Hexadecimal
