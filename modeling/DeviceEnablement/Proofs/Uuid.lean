/-
  The texts of identifiers.

  A number is read back from its hexadecimal digits, also with zeros in front of them and with
  dashes between them (`Hexadecimal.value`).  So two identifiers with one text are the same
  (`Uuid.text_injective`), and the devices have folders of their own.
-/
import DeviceEnablement.Uuid
import Mathlib.Data.Nat.Digits.Defs

namespace DeviceEnablement

namespace Hexadecimal

/-- Reads one more character onto a number; what is no digit is passed over. -/
def appendDigit (n : Nat) (c : Char) : Nat :=
  match digit? c with
  | some d => 16 * n + d
  | none => n

/-- The number with these digits. -/
def value (cs : List Char) : Nat := cs.foldl appendDigit 0

theorem digit?_digitChar : ∀ d < 16, digit? (Nat.digitChar d) = some d := by decide

/-- A number is read back from its digits. -/
theorem value_digits (n : Nat) : value (digits n) = n := by
  induction n using Nat.strongRecOn with
  | ind n ih =>
    unfold digits
    rw [Nat.toDigits_eq_if (by decide)]
    split
    · rename_i hsmall
      show appendDigit 0 (Nat.digitChar n) = n
      unfold appendDigit
      rw [digit?_digitChar n hsmall]
      dsimp only
      omega
    · rename_i hlarge
      have hlast := digit?_digitChar (n % 16) (Nat.mod_lt n (by decide))
      have hrest : (Nat.toDigits 16 (n / 16)).foldl appendDigit 0 = n / 16 :=
        ih (n / 16) (Nat.div_lt_self (by omega) (by decide))
      unfold value
      rw [List.foldl_append, hrest]
      show appendDigit (n / 16) _ = n
      unfold appendDigit
      rw [hlast]
      exact Nat.div_add_mod n 16

/-- Zeros in front make no difference. -/
theorem value_zeros (count : Nat) (cs : List Char) :
    value (List.replicate count '0' ++ cs) = value cs := by
  induction count with
  | zero => rfl
  | succ count ih => exact ih

end Hexadecimal

namespace Uuid

open Hexadecimal (appendDigit)

/-- The number of an identifier is read back from its text. -/
theorem value_text (uuid : Uuid) : Hexadecimal.value uuid.text.toList = uuid.value.toNat := by
  have hdash : ∀ n, appendDigit n '-' = n := fun _ => rfl
  have hdigits : Hexadecimal.value uuid.digits = uuid.value.toNat := by
    unfold digits
    dsimp only
    rw [Hexadecimal.value_zeros, Hexadecimal.value_digits]
  rw [← hdigits]
  unfold text Hexadecimal.value
  dsimp only
  rw [String.toList_ofList]
  -- The dashes are passed over, and what stands between them are the digits in order.
  simp only [List.foldl_append, List.foldl_cons, hdash]
  simp only [← List.foldl_append]
  congr 1
  have hdrop : ∀ (m n : Nat) (cs : List Char),
      (cs.drop m).take n ++ cs.drop (m + n) = cs.drop m := by
    intro m n cs
    rw [← List.drop_drop, List.take_append_drop]
  rw [List.append_assoc, List.append_assoc, List.append_assoc, hdrop 16 4, hdrop 12 4, hdrop 8 4,
    List.take_append_drop]

/-- Identifiers with the same text are the same. -/
theorem text_injective {a b : Uuid} (h : a.text = b.text) : a = b := by
  have hvalue : a.value.toNat = b.value.toNat := by
    rw [← value_text, ← value_text, h]
  cases a
  cases b
  exact congrArg Uuid.mk (BitVec.eq_of_toNat_eq hvalue)

end Uuid

end DeviceEnablement
