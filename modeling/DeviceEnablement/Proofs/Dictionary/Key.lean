/-
  The names of dictionary files.

  Each key has a file of its own (`fileName_injective`).  The names have the ending that reloading
  looks for (`isDictionaryFile_fileName`), and the file that is written beside one of them before it
  takes its place has not (`isDictionaryFile_temporary`).
-/
import DeviceEnablement.Dictionary.Store
import Mathlib.Data.List.Basic
import Mathlib.Data.Nat.Digits.Defs

namespace DeviceEnablement

namespace DictionaryKey

variable {key key' : DictionaryKey}

/-- The decimal digits of a number. -/
def decimals (n : Nat) : List Char := Nat.toDigits 10 n

theorem decimals_injective {m n : Nat} (h : decimals m = decimals n) : m = n := by
  rw [← Nat.ofDigitChars_ten_toDigits (n := m), ← Nat.ofDigitChars_ten_toDigits (n := n)]
  exact congrArg (Nat.ofDigitChars 10 · 0) h

theorem underscore_not_mem_decimals (n : Nat) : '_' ∉ decimals n := Nat.underscore_not_in_toDigits

/-- The name of a file other than that of the annotations. -/
theorem toList_fileName (h : key ≠ reserved) :
    key.fileName.toList = "dictionary_".toList ++ (decimals key.resourceId.toNat ++
      '_' :: (decimals key.schemaClass.toNat ++ ".bin".toList)) := by
  have hdecimals : ∀ n : Nat, n.repr.toList = decimals n := by
    intro n
    rw [Nat.repr_eq_ofList_toDigits, String.toList_ofList]
    rfl
  unfold fileName isReserved
  rw [decide_eq_false h]
  simp only [Bool.false_eq_true, if_false, String.toList_append]
  show _ ++ key.resourceId.toNat.repr.toList ++ ['_'] ++ key.schemaClass.toNat.repr.toList ++ _ = _
  rw [hdecimals, hdecimals]
  simp only [List.append_assoc, List.singleton_append]
  rfl

theorem fileName_reserved : reserved.fileName = "annotation.bin" := rfl

/-- No other dictionary has the file of the annotations. -/
theorem fileName_ne_reserved (h : key ≠ reserved) : key.fileName ≠ reserved.fileName := by
  intro hname
  have hlists := congrArg String.toList hname
  rw [toList_fileName h, fileName_reserved] at hlists
  exact absurd (List.cons.inj hlists).1 (by decide)

/-- Keys with the same file are the same. -/
theorem fileName_injective (h : key.fileName = key'.fileName) : key = key' := by
  by_cases hkey : key = reserved
  · by_contra hne
    exact fileName_ne_reserved (fun hkey' => hne (hkey.trans hkey'.symm)) (hkey ▸ h).symm
  · have hkey' : key' ≠ reserved := fun hkey' => fileName_ne_reserved hkey (hkey' ▸ h)
    have hlists := congrArg String.toList h
    rw [toList_fileName hkey, toList_fileName hkey'] at hlists
    have hclass : '_' ∉ decimals key.schemaClass.toNat ++ ".bin".toList := by
      rw [List.mem_append, not_or]
      exact ⟨underscore_not_mem_decimals _, by decide⟩
    -- The only underscore behind the prefix stands between the two numbers.
    obtain ⟨hresource, -, hrest⟩ := (List.append_cons_inj_of_notMem
      (underscore_not_mem_decimals key.resourceId.toNat) hclass).mp (List.append_cancel_left hlists)
    have hid := UInt32.toNat_inj.mp (decimals_injective hresource)
    have hcl := UInt8.toNat_inj.mp (decimals_injective (List.append_cancel_right hrest))
    cases key
    cases key'
    cases hid
    cases hcl
    rfl

/-- The files of dictionaries have the ending that reloading looks for. -/
theorem isDictionaryFile_fileName (key : DictionaryKey) :
    Store.isDictionaryFile key.fileName = true := by
  by_cases hkey : key = reserved
  · rw [hkey]
    rfl
  · have hlists := toList_fileName hkey
    unfold Store.isDictionaryFile
    rw [Bool.and_eq_true, decide_eq_true_iff, List.isSuffixOf_iff_suffix, ← String.length_toList,
      hlists]
    constructor
    · rw [← List.cons_append, ← List.append_assoc, ← List.append_assoc]
      exact List.suffix_append _ _
    · rw [List.length_append]
      exact Nat.lt_of_lt_of_le (by decide : 4 < "dictionary_".toList.length) (Nat.le_add_right _ _)

end DictionaryKey

/-- The file beside a dictionary file, in which the new content is gathered, is none itself. -/
theorem Store.isDictionaryFile_temporary (name : String) :
    isDictionaryFile (Folder.temporary name) = false := by
  unfold isDictionaryFile Folder.temporary
  rw [Bool.and_eq_false_iff, ← Bool.not_eq_true, List.isSuffixOf_iff_suffix, String.toList_append]
  left
  intro hsuffix
  have hlast := hsuffix.getLast (by decide)
  rw [List.getLast_append_of_ne_nil _ (by decide)] at hlast
  exact absurd hlast (by decide)

theorem DictionaryKey.fileName_ne_temporary (key : DictionaryKey) (name : String) :
    key.fileName ≠ Folder.temporary name := by
  intro heq
  have hending := key.isDictionaryFile_fileName
  rw [heq, Store.isDictionaryFile_temporary] at hending
  cases hending

end DeviceEnablement
