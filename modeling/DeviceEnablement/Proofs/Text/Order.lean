/-
  The order of texts is the order of their UTF-8 forms.

  Texts are compared character by character, and their UTF-8 forms byte by byte.  A form is never
  the beginning of that of another character, so two forms differ at a byte that both of them have,
  and the lower character has the lower byte there.

  1. `Bytes.lt_of_digits_lt`: four digits to the base 64, written one behind the other, stand in the
     order of the number they make up.  The bytes of the longest form are such digits.
  2. `Bytes.utf8EncodeChar_append_lt`: the forms of two characters, whatever follows them.
  3. `Bytes.utf8_lt`: the forms of two texts.
-/
import DeviceEnablement.Proofs.Wire.Format
import Mathlib.Tactic.SplitIfs

namespace DeviceEnablement.Bytes

/-! ## Characters -/

/-- A number with its last three digits to the base 64 taken apart. -/
theorem eq_digits (n : Nat) :
    n = n / 262144 * 262144 + n / 4096 % 64 * 4096 + n / 64 % 64 * 64 + n % 64 := by
  omega

/-- Digits, written one behind the other, stand in the order of the number they make up. -/
theorem lt_of_digits_lt (a a' : Nat) {b c d b' c' d' : Nat}
    (hb : b < 64) (hc : c < 64) (hd : d < 64) (hb' : b' < 64) (hc' : c' < 64) (hd' : d' < 64)
    (hlt : a * 262144 + b * 4096 + c * 64 + d < a' * 262144 + b' * 4096 + c' * 64 + d') :
    a < a' ∨ a = a' ∧ (b < b' ∨ b = b' ∧ (c < c' ∨ c = c' ∧ d < d')) := by
  omega

/-- Bytes that are given as numbers are compared as these. -/
theorem ofNat_cons_lt_iff {n m : Nat} (hn : n < 256) (hm : m < 256) {rest rest' : Bytes} :
    UInt8.ofNat n :: rest < UInt8.ofNat m :: rest' ↔ n < m ∨ n = m ∧ rest < rest' := by
  rw [List.cons_lt_cons_iff, UInt8.lt_iff_toNat_lt, ← UInt8.toNat_inj,
    UInt8.toNat_ofNat_of_lt' hn, UInt8.toNat_ofNat_of_lt' hm]

theorem codePoint_lt (c : Char) : c.val.toNat < 0x110000 := by
  rcases c.valid with hlow | hhigh
  · exact Nat.lt_trans hlow (by decide)
  · exact hhigh.2

/-- A form of four bytes begins with the part of the code point that the others do not hold. -/
theorem utf8EncodeChar_of_large {c : Char} (h : ¬ c.val.toNat ≤ 0xffff) :
    String.utf8EncodeChar c =
      [.ofNat (c.val.toNat / 262144 + 0xf0), .ofNat (c.val.toNat / 4096 % 64 + 0x80),
        .ofNat (c.val.toNat / 64 % 64 + 0x80), .ofNat (c.val.toNat % 64 + 0x80)] := by
  have hmax := codePoint_lt c
  have hlead : c.val.toNat / 262144 % 8 = c.val.toNat / 262144 := by omega
  unfold String.utf8EncodeChar
  dsimp only
  rw [if_neg (by omega), if_neg (by omega), if_neg h, hlead]

/-- The lower of two characters has the lower form, whatever follows. -/
theorem utf8EncodeChar_append_lt {c d : Char} (h : c < d) (rest rest' : Bytes) :
    String.utf8EncodeChar c ++ rest < String.utf8EncodeChar d ++ rest' := by
  have hlt : c.val.toNat < d.val.toNat := UInt32.lt_iff_toNat_lt.mp h
  by_cases hc : c.val.toNat ≤ 0xffff
  · unfold String.utf8EncodeChar
    dsimp only
    -- A longer form has the higher leading byte; forms of one length have at most three digits.
    split_ifs <;>
    · simp (disch := omega) only [List.cons_append, List.nil_append, ofNat_cons_lt_iff]
      omega
  · have hmod (n : Nat) : n % 64 < 64 := Nat.mod_lt n (by decide)
    have hdigits := lt_of_digits_lt (c.val.toNat / 262144) (d.val.toNat / 262144)
      (hmod (c.val.toNat / 4096)) (hmod (c.val.toNat / 64)) (hmod c.val.toNat)
      (hmod (d.val.toNat / 4096)) (hmod (d.val.toNat / 64)) (hmod d.val.toNat)
      (by rw [← eq_digits, ← eq_digits]; exact hlt)
    have hleft := codePoint_lt c
    have hright := codePoint_lt d
    rw [utf8EncodeChar_of_large hc, utf8EncodeChar_of_large (by omega)]
    simp (disch := omega) only [List.cons_append, List.nil_append, ofNat_cons_lt_iff,
      Nat.add_lt_add_iff_right, Nat.add_right_cancel_iff]
    grind

/-! ## Texts -/

/-- The lower of two texts has the lower UTF-8 form. -/
theorem utf8_lt {a b : String} (h : a < b) : utf8 a < utf8 b := by
  rw [String.lt_iff] at h
  rw [utf8_eq_flatMap, utf8_eq_flatMap]
  generalize a.toList = cs at h
  generalize b.toList = ds at h
  induction cs generalizing ds with
  | nil =>
    cases ds with
    | nil => exact absurd h (List.lt_irrefl _)
    | cons d ds =>
      obtain ⟨b, bs, hform⟩ := List.exists_cons_of_ne_nil (String.utf8EncodeChar_ne_nil (c := d))
      rw [List.flatMap_cons, hform]
      exact List.nil_lt_cons b _
  | cons c cs ih =>
    cases ds with
    | nil => exact absurd h (List.not_lt_nil _)
    | cons d ds =>
      rw [List.flatMap_cons, List.flatMap_cons]
      obtain hlt | ⟨rfl, hlt⟩ := List.cons_lt_cons_iff.mp h
      · exact utf8EncodeChar_append_lt hlt _ _
      · exact List.append_left_lt (ih ds hlt)

end DeviceEnablement.Bytes
