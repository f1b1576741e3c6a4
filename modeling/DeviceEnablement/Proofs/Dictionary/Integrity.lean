/-
  Damage to the file of a dictionary.

  A file is a header and the content.  What can be read is exactly the files that can be written, but
  for a flag that is any byte (`decode_frame`, `decode_cases`), so it is enough to see that what is left
  of a file after some damage is no other file.  The header holds the length, which leaves no room for
  bytes that are missing or that were added, and the check, which notices a byte of the content that
  has changed.

  1. `frame`: the bytes of a file, in blocks.
  2. `Refused`: a file is not read, because it is corrupt.
  3. `length_eq_of_append`, `place_of_altered`: what two files can have in common.
  4. `damage_detected`: the file of a dictionary is read back, and refused when it is damaged.
-/
import DeviceEnablement.Dictionary.Basic
import DeviceEnablement.Proofs.Checksum
import DeviceEnablement.Proofs.Wire.Format

namespace DeviceEnablement.Dictionary

variable {key key' : DictionaryKey} {flag flag' : UInt8} {data data' : Bytes} {place : Nat}

/-! ## Files -/

/-- The file with this key, flag and content: six bytes that all files have, the key and the flag, the
    length of the content, its check, and the content. -/
def frame (key : DictionaryKey) (flag : UInt8) (data : Bytes) : Bytes :=
  (magic ++ Bytes.ofU16 formatVersion) ++
    ((Bytes.ofU32 key.resourceId ++ [key.schemaClass, flag]) ++
      (Bytes.ofU32 (.ofNat data.length) ++ (Bytes.ofU32 (Checksum.dictionary data) ++ data)))

theorem encode_eq_frame (d : Dictionary) :
    d.encode = frame d.key (if d.complete then 1 else 0) d.data := by
  unfold encode frame
  simp only [List.append_assoc]

theorem length_frame : (frame key flag data).length = headerSize + data.length := by
  simp only [frame, magic, List.length_append, Bytes.length_ofU16, Bytes.length_ofU32,
    List.length_cons, List.length_nil, headerSize]
  omega

/-- A file is read back; any flag but zero says that the dictionary is complete. -/
theorem decode_frame (hlength : data.length < 2 ^ 32) (file : String) :
    decode file (frame key flag data) = .ok { key, data, complete := flag ≠ 0, file } := by
  have hlength' : (UInt32.ofNat data.length).toNat = data.length :=
    UInt32.toNat_ofNat_of_lt' hlength
  unfold decode frame magic Bytes.ofU16 Bytes.ofU32
  dsimp only [List.cons_append, List.nil_append]
  rw [Bytes.toU32_ofU32, Bytes.toU32_ofU32, Bytes.toU32_ofU32, Bytes.toU16_ofU16, hlength']
  simp only [ne_eq, not_true_eq_false, if_false]

/-- A dictionary is read back from its file, under the name of the file. -/
theorem decode_encode {d : Dictionary} (hlength : d.data.length < 2 ^ 32) (file : String) :
    decode file d.encode = .ok { d with file } := by
  have hcomplete : decide ((if d.complete then (1 : UInt8) else 0) ≠ 0) = d.complete := by
    cases d.complete <;> rfl
  rw [encode_eq_frame, decode_frame hlength, hcomplete]

/-- Whether a file is refused as corrupt. -/
def Refused (file : String) (bytes : Bytes) : Prop :=
  ∃ reason, decode file bytes = .error (.corrupt file reason)

/-- Whatever is not refused is a file. -/
theorem decode_cases (file : String) (bytes : Bytes) :
    Refused file bytes ∨ ∃ key flag data, data.length < 2 ^ 32 ∧ bytes = frame key flag data := by
  unfold Refused decode
  split
  · rename_i m0 m1 m2 m3 v0 v1 r0 r1 r2 r3 schemaClass complete l0 l1 l2 l3 c0 c1 c2 c3 data
    dsimp only
    split
    · exact Or.inl ⟨_, rfl⟩
    · rename_i hmagic
      split
      · exact Or.inl ⟨_, rfl⟩
      · rename_i hversion
        split
        · exact Or.inl ⟨_, rfl⟩
        · rename_i hlength
          split
          · exact Or.inl ⟨_, rfl⟩
          · rename_i hcheck
            rw [ne_eq, Decidable.not_not] at hmagic hversion hlength hcheck
            refine Or.inr ⟨⟨Bytes.toU32 r0 r1 r2 r3, schemaClass⟩, complete, data, ?_, ?_⟩
            · rw [hlength]
              exact UInt32.toNat_lt _
            · unfold frame
              rw [← hmagic, ← hversion, hlength, hcheck, UInt32.ofNat_toNat, Bytes.ofU16_toU16,
                Bytes.ofU32_toU32, Bytes.ofU32_toU32, Bytes.ofU32_toU32]
              rfl
  · exact Or.inl ⟨_, rfl⟩

/-! ## What two files have in common -/

/-- The length that a file begins with is that of its content, so two files that begin alike are equally
    long. -/
theorem length_eq_of_append {rest rest' : Bytes} (hlength : data.length < 2 ^ 32)
    (hlength' : data'.length < 2 ^ 32)
    (h : frame key flag data ++ rest = frame key' flag' data' ++ rest') :
    data.length = data'.length := by
  have hfield : ∀ (key : DictionaryKey) flag (data rest : Bytes),
      ((frame key flag data ++ rest).drop 12).take 4 = Bytes.ofU32 (.ofNat data.length) :=
    fun _ _ _ _ => rfl
  have hsame : Bytes.ofU32 (.ofNat data.length) = Bytes.ofU32 (.ofNat data'.length) := by
    rw [← hfield key flag data rest, h, hfield]
  rw [← UInt32.toNat_ofNat_of_lt' hlength, Bytes.ofU32_injective hsame,
    UInt32.toNat_ofNat_of_lt' hlength']

/-- Two files that differ in one place differ in the key or in the flag. -/
theorem place_of_altered
    (h : Bytes.Altered place (frame key flag data) (frame key' flag' data')) :
    6 ≤ place ∧ place < 12 := by
  have hdata : data.length = data'.length := by
    have hframes := h.length_eq
    rw [length_frame, length_frame] at hframes
    omega
  have hkeys : (Bytes.ofU32 key.resourceId ++ [key.schemaClass, flag]).length =
      (Bytes.ofU32 key'.resourceId ++ [key'.schemaClass, flag']).length := rfl
  unfold frame at h
  rcases Bytes.altered_append rfl h with ⟨-, hfront, -⟩ | ⟨place, rfl, -, h⟩
  · exact absurd rfl hfront.ne
  rcases Bytes.altered_append hkeys h with ⟨hplace, -⟩ | ⟨place, rfl, -, h⟩
  · exact ⟨Nat.le_add_right 6 place, Nat.add_lt_add_left hplace 6⟩
  exfalso
  have hsizes : (Bytes.ofU32 (.ofNat data.length)).length =
      (Bytes.ofU32 (.ofNat data'.length)).length := rfl
  rcases Bytes.altered_append hsizes h with ⟨-, hsize, -⟩ | ⟨place, -, -, h⟩
  · rw [hdata] at hsize
    exact hsize.ne rfl
  have hchecks : (Bytes.ofU32 (Checksum.dictionary data)).length =
      (Bytes.ofU32 (Checksum.dictionary data')).length := rfl
  rcases Bytes.altered_append hchecks h with ⟨-, hcheck, hsame⟩ | ⟨place, -, hcheck, h⟩
  · rw [hsame] at hcheck
    exact hcheck.ne rfl
  · exact Checksum.dictionary_ne_of_altered h (Bytes.ofU32_injective hcheck)

/-- A shorter part of a file is no file. -/
theorem refused_of_part {part : Bytes} (hlength : data.length < 2 ^ 32)
    (hpart : part <+: frame key flag data) (hcut : part ≠ frame key flag data) (file : String) :
    Refused file part := by
  obtain ⟨missing, hwhole⟩ := hpart
  rcases decode_cases file part with hrefused | ⟨key', flag', data', hlength', rfl⟩
  · exact hrefused
  exfalso
  have hdata := length_eq_of_append hlength' hlength
    (hwhole.trans (List.append_nil _).symm)
  have hframes := congrArg List.length hwhole
  rw [List.length_append, length_frame, length_frame] at hframes
  have hmissing : missing = [] := List.eq_nil_of_length_eq_zero (by omega)
  rw [hmissing, List.append_nil] at hwhole
  exact hcut hwhole

/-- A file with something behind it is no file. -/
theorem refused_of_append {extra : Bytes} (hlength : data.length < 2 ^ 32) (hextra : extra ≠ [])
    (file : String) : Refused file (frame key flag data ++ extra) := by
  rcases decode_cases file (frame key flag data ++ extra) with
    hrefused | ⟨key', flag', data', hlength', hwhole⟩
  · exact hrefused
  exfalso
  have hdata := length_eq_of_append hlength hlength'
    (hwhole.trans (List.append_nil _).symm)
  have hframes := congrArg List.length hwhole
  rw [List.length_append, length_frame, length_frame] at hframes
  exact hextra (List.eq_nil_of_length_eq_zero (by omega))

/-- A file in which another byte has changed is no file. -/
theorem refused_of_altered {damaged : Bytes}
    (h : Bytes.Altered place (frame key flag data) damaged) (hplace : place < 6 ∨ 12 ≤ place)
    (file : String) : Refused file damaged := by
  rcases decode_cases file damaged with hrefused | ⟨key', flag', data', -, rfl⟩
  · exact hrefused
  · have hinside := place_of_altered h
    omega

/-- A dictionary is read back from its file, and when the file is damaged, this is noticed.  It is
refused as corrupt when bytes are missing at its end, when bytes were added there, and when a single byte
has become another one, except in the key and in the flag, which stand in the places from 6 to 11 and
which nothing checks. -/
theorem damage_detected (d : Dictionary) (hlength : d.data.length < 2 ^ 32) (file : String) :
    decode file d.encode = .ok { d with file } ∧
    (∀ part, part <+: d.encode → part ≠ d.encode → Refused file part) ∧
    (∀ extra, extra ≠ [] → Refused file (d.encode ++ extra)) ∧
    ∀ place old new, d.encode[place]? = some old → new ≠ old → (place < 6 ∨ 12 ≤ place) →
      Refused file (d.encode.set place new) := by
  refine ⟨decode_encode hlength file, ?_⟩
  rw [encode_eq_frame]
  refine ⟨?_, ?_, ?_⟩
  · intro part hpart hcut
    exact refused_of_part hlength hpart hcut file
  · intro extra hextra
    exact refused_of_append hlength hextra file
  · intro place old new hold hne hplace
    exact refused_of_altered (Bytes.altered_set hold hne) hplace file

/-- A dictionary with five bytes of content. -/
def sampleDictionary : Dictionary :=
  .ofContent ⟨3, 1⟩ "dictionary_3_1.bin" [0x00, 0x01, 0x00, 0xfe, 0xff]

/-- A file without its header's last byte, a file with a zero behind it, and a file with one bit of its
content turned are refused. -/
theorem damage_detected_sample :
    decode "x.bin" sampleDictionary.encode = .ok { sampleDictionary with file := "x.bin" } ∧
      Refused "x.bin" (sampleDictionary.encode.take 19) ∧
      Refused "x.bin" (sampleDictionary.encode ++ [0x00]) ∧
      Refused "x.bin" (sampleDictionary.encode.set 22 0x01) := by
  obtain ⟨hread, hpart, hextra, haltered⟩ := damage_detected sampleDictionary (by decide) "x.bin"
  refine ⟨hread, ?_, ?_, ?_⟩
  · exact hpart _ (List.take_prefix 19 _) fun h => absurd (congrArg List.length h) (by decide)
  · exact hextra _ (by decide)
  · exact haltered 22 0x00 0x01 rfl (by decide) (by decide)

end DeviceEnablement.Dictionary
