/-
  What a check tells apart.

  A register is halved and, when an odd bit falls out, the polynomial is added.  As the polynomial has
  the highest bit, which the half has not, the register that was there can be told from the one that
  is left: no step loses anything.  So a byte that has changed makes another register, and it stays
  another one whatever bytes follow, however many.

  1. `shiftBit_injective`, `step_injective`, `update_injective`: registers that differ go on to differ.
  2. `Bytes.Altered`: byte strings that differ in one place.  `altered_append`: of two parts, one after
     the other, the place is in one, and the other is the same.
  3. `of_ne_of_altered`: their checks differ.
-/
import DeviceEnablement.Checksum
import Mathlib.Data.Nat.Bitwise

namespace DeviceEnablement

namespace Checksum

variable {polynomial r r' : UInt32} {b b' : UInt8}

/-! ## Bits -/

/-- The register is halved, and the polynomial is added when it was odd. -/
theorem toNat_shiftBit (polynomial r : UInt32) : (shiftBit polynomial r).toNat =
    r.toNat / 2 ^^^ if r.toNat % 2 = 1 then polynomial.toNat else 0 := by
  have hodd : r &&& 1 = 1 ↔ r.toNat % 2 = 1 := by
    rw [← UInt32.toNat_inj, UInt32.toNat_and, UInt32.toNat_one, Nat.and_one_is_mod]
  have hhalf : (r >>> 1).toNat = r.toNat / 2 := by
    rw [UInt32.toNat_shiftRight]
    rfl
  unfold shiftBit
  by_cases h : r &&& 1 = 1
  · rw [if_pos h, if_pos (hodd.mp h), UInt32.toNat_xor, hhalf]
  · rw [if_neg h, if_neg (mt hodd.mpr h), Nat.xor_zero, hhalf]

/-- The highest bit of what is left says whether the register was odd. -/
theorem testBit_shiftBit (htop : polynomial.toNat.testBit 31 = true) (r : UInt32) :
    (shiftBit polynomial r).toNat.testBit 31 = decide (r.toNat % 2 = 1) := by
  have hhalf : (r.toNat / 2).testBit 31 = false := by
    apply Nat.testBit_lt_two_pow
    have := r.toNat_lt
    omega
  rw [toNat_shiftBit, Nat.testBit_xor, hhalf, Bool.false_xor]
  split
  · rename_i hodd
    rw [htop, decide_eq_true hodd]
  · rename_i heven
    rw [Nat.zero_testBit, decide_eq_false heven]

theorem shiftBit_injective (htop : polynomial.toNat.testBit 31 = true)
    (h : shiftBit polynomial r = shiftBit polynomial r') : r = r' := by
  have hodd : r.toNat % 2 = 1 ↔ r'.toNat % 2 = 1 := by
    rw [← decide_eq_decide, ← testBit_shiftBit htop r, ← testBit_shiftBit htop r', h]
  have hhalves := congrArg UInt32.toNat h
  rw [toNat_shiftBit, toNat_shiftBit] at hhalves
  apply UInt32.toNat_inj.mp
  by_cases hr : r.toNat % 2 = 1
  · have hr' := hodd.mp hr
    rw [if_pos hr, if_pos hr', Nat.xor_left_inj] at hhalves
    omega
  · have hr' := mt hodd.mpr hr
    rw [if_neg hr, if_neg hr', Nat.xor_zero, Nat.xor_zero] at hhalves
    omega

theorem shiftBits_injective (htop : polynomial.toNat.testBit 31 = true) {count : Nat}
    (h : shiftBits polynomial count r = shiftBits polynomial count r') : r = r' := by
  induction count generalizing r r' with
  | zero => exact h
  | succ count ih => exact shiftBit_injective htop (ih h)

/-! ## Bytes -/

theorem step_injective (htop : polynomial.toNat.testBit 31 = true)
    (h : step polynomial r b = step polynomial r' b) : r = r' := by
  have hshifted := shiftBits_injective htop h
  exact (UInt32.xor_left_inj _).mp hshifted

/-- Two bytes do not make the same register of one. -/
theorem byte_of_step_eq (htop : polynomial.toNat.testBit 31 = true)
    (h : step polynomial r b = step polynomial r b') : b = b' := by
  have hshifted := shiftBits_injective htop h
  exact UInt8.toUInt32_inj.mp ((UInt32.xor_right_inj _).mp hshifted)

theorem update_injective (htop : polynomial.toNat.testBit 31 = true) (bytes : Bytes)
    (h : update polynomial r bytes = update polynomial r' bytes) : r = r' := by
  induction bytes generalizing r r' with
  | nil => exact h
  | cons b rest ih => exact step_injective htop (ih h)

end Checksum

/-! ## One place -/

namespace Bytes

/-- Whether two byte strings are the same but for the byte in this place. -/
inductive Altered : Nat → Bytes → Bytes → Prop
  | here {b b' : UInt8} (hne : b ≠ b') (rest : Bytes) : Altered 0 (b :: rest) (b' :: rest)
  | there {place : Nat} {old new : Bytes} (b : UInt8) (h : Altered place old new) :
    Altered (place + 1) (b :: old) (b :: new)

variable {place : Nat} {old new front front' rest rest' : Bytes}

theorem Altered.ne (h : Altered place old new) : old ≠ new := by
  induction h with
  | here hne rest =>
    intro heq
    exact hne (List.cons.inj heq).1
  | there b _ ih =>
    intro heq
    exact ih (List.cons.inj heq).2

theorem Altered.length_eq (h : Altered place old new) : old.length = new.length := by
  induction h with
  | here hne rest => rfl
  | there b _ ih => exact congrArg Nat.succ ih

theorem altered_set {b b' : UInt8} (hplace : old[place]? = some b) (hne : b' ≠ b) :
    Altered place old (old.set place b') := by
  induction old generalizing place with
  | nil => cases hplace
  | cons first old ih =>
    cases place with
    | zero =>
      cases hplace
      exact .here hne.symm old
    | succ place => exact .there first (ih hplace)

/-- The place is in the part in front, and what follows is the same, or the other way round. -/
theorem altered_append (hlength : front.length = front'.length)
    (h : Altered place (front ++ rest) (front' ++ rest')) :
    (place < front.length ∧ Altered place front front' ∧ rest = rest') ∨
      ∃ place', place = front.length + place' ∧ front = front' ∧ Altered place' rest rest' := by
  induction front generalizing front' place with
  | nil =>
    obtain rfl : front' = [] := List.eq_nil_of_length_eq_zero hlength.symm
    exact Or.inr ⟨place, (Nat.zero_add place).symm, rfl, h⟩
  | cons first front ih =>
    cases front' with
    | nil => cases hlength
    | cons first' front' =>
      have hlength' : front.length = front'.length := Nat.succ.inj hlength
      generalize hold : (first :: front) ++ rest = old at h
      generalize hnew : (first' :: front') ++ rest' = new at h
      cases h with
      | here hne same =>
        cases hold
        injection hnew with hfirst hsame
        obtain ⟨rfl, rfl⟩ := List.append_inj hsame hlength'.symm
        subst hfirst
        exact Or.inl ⟨Nat.zero_lt_succ _, .here hne _, rfl⟩
      | there b h =>
        cases hold
        cases hnew
        rcases ih hlength' h with ⟨hplace, hfront, hrest⟩ | ⟨place', rfl, rfl, hrest⟩
        · exact Or.inl ⟨Nat.succ_lt_succ hplace, .there _ hfront, hrest⟩
        · refine Or.inr ⟨place', ?_, rfl, hrest⟩
          rw [List.length_cons]
          omega

end Bytes

namespace Checksum

variable {polynomial : UInt32} {place : Nat} {old new : Bytes}

/-- From the place in which they differ, two byte strings leave registers that differ. -/
theorem update_ne_of_altered (htop : polynomial.toNat.testBit 31 = true)
    (h : Bytes.Altered place old new) (r : UInt32) :
    update polynomial r old ≠ update polynomial r new := by
  induction h generalizing r with
  | here hne rest =>
    intro heq
    exact hne (byte_of_step_eq htop (update_injective htop rest heq))
  | there b _ ih => exact ih (step polynomial r b)

/-- A check with such a polynomial notices every change of a single byte. -/
theorem of_ne_of_altered (htop : polynomial.toNat.testBit 31 = true)
    (h : Bytes.Altered place old new) : of polynomial old ≠ of polynomial new := by
  intro heq
  exact update_ne_of_altered htop h _ ((UInt32.xor_left_inj _).mp heq)

theorem dictionary_ne_of_altered (h : Bytes.Altered place old new) :
    dictionary old ≠ dictionary new :=
  of_ne_of_altered (by decide) h

end Checksum

end DeviceEnablement
