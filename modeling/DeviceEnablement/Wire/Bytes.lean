/-
  Byte strings and little-endian words.

  Everything that travels or is stored is a list of bytes.  A word of `n` bytes is written lowest
  byte first, `UInt16` and `UInt32` being the only widths in use; `toU16_ofU16` and `toU32_ofU32`
  say that reading undoes writing.

  A byte string is text exactly when it is well-formed UTF-8 (`text?`), and `utf8` writes a text;
  `text?_utf8` and `utf8_of_text?` say that these are inverse to each other.
-/

namespace DeviceEnablement

/-- A message, a payload or the content of a file, in the order it is sent or stored. -/
abbrev Bytes := List UInt8

namespace Bytes

/-! ## Words -/

/-- The two bytes of a word, lowest first. -/
def ofU16 (w : UInt16) : Bytes :=
  [.ofNat w.toNat, .ofNat (w.toNat / 256)]

/-- The four bytes of a word, lowest first. -/
def ofU32 (w : UInt32) : Bytes :=
  [.ofNat w.toNat, .ofNat (w.toNat / 256), .ofNat (w.toNat / 65536), .ofNat (w.toNat / 16777216)]

/-- The word whose bytes are `a` and `b`, lowest first. -/
def toU16 (a b : UInt8) : UInt16 :=
  .ofNat (a.toNat + 256 * b.toNat)

/-- The word whose bytes are `a`, `b`, `c` and `d`, lowest first. -/
def toU32 (a b c d : UInt8) : UInt32 :=
  .ofNat (a.toNat + 256 * b.toNat + 65536 * c.toNat + 16777216 * d.toNat)

@[simp] theorem length_ofU16 (w : UInt16) : (ofU16 w).length = 2 := rfl

@[simp] theorem length_ofU32 (w : UInt32) : (ofU32 w).length = 4 := rfl

/-- Reading the bytes of a two-byte word gives the word back. -/
theorem toU16_ofU16 (w : UInt16) :
    toU16 (.ofNat w.toNat) (.ofNat (w.toNat / 256)) = w := by
  apply UInt16.toNat_inj.mp
  have := w.toNat_lt
  simp only [toU16, UInt8.toNat_ofNat', UInt16.toNat_ofNat']
  omega

/-- Reading the bytes of a four-byte word gives the word back. -/
theorem toU32_ofU32 (w : UInt32) :
    toU32 (.ofNat w.toNat) (.ofNat (w.toNat / 256)) (.ofNat (w.toNat / 65536))
      (.ofNat (w.toNat / 16777216)) = w := by
  apply UInt32.toNat_inj.mp
  have := w.toNat_lt
  simp only [toU32, UInt8.toNat_ofNat', UInt32.toNat_ofNat']
  omega

/-! ## Text -/

/-- The UTF-8 form of a text. -/
def utf8 (text : String) : Bytes := text.toByteArray.data.toList

/-- The text with this UTF-8 form, if the bytes are well-formed UTF-8. -/
def text? (bytes : Bytes) : Option String := String.fromUTF8? ⟨bytes.toArray⟩

@[simp] theorem text?_utf8 (text : String) : text? (utf8 text) = some text := by
  have h : (⟨text.toByteArray.data.toList.toArray⟩ : ByteArray) = text.toByteArray := by simp
  simp only [text?, utf8, h, String.fromUTF8?]
  rw [dif_pos text.isValidUTF8]
  rfl

theorem utf8_of_text? {bytes : Bytes} {text : String} (h : text? bytes = some text) :
    utf8 text = bytes := by
  simp only [text?, String.fromUTF8?] at h
  split at h
  · cases h; simp [utf8, String.fromUTF8]
  · simp at h

end Bytes

end DeviceEnablement
