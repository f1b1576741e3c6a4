/-
  Universally unique identifiers: numbers of 128 bits with a text of 32 hexadecimal digits in
  groups of 8, 4, 4, 4 and 12.
-/
import DeviceEnablement.Text.Hexadecimal

namespace DeviceEnablement

/-- The identity of a device. -/
structure Uuid where
  value : BitVec 128
  deriving DecidableEq

namespace Uuid

/-- The identifier with this number. -/
def ofNat (n : Nat) : Uuid := ⟨BitVec.ofNat 128 n⟩

/-- The 32 digits of an identifier. -/
def digits (uuid : Uuid) : List Char :=
  let ds := Hexadecimal.digits uuid.value.toNat
  List.replicate (32 - ds.length) '0' ++ ds

/-- The text of an identifier. -/
def text (uuid : Uuid) : String :=
  let ds := uuid.digits
  String.ofList (ds.take 8 ++ '-' :: ((ds.drop 8).take 4 ++ '-' :: ((ds.drop 12).take 4
    ++ '-' :: ((ds.drop 16).take 4 ++ '-' :: ds.drop 20))))

end Uuid

end DeviceEnablement
