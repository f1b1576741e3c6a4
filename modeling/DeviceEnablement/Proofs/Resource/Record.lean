/-
  The format of resource records.

  Each part of a record has a reader that goes with its writer (`Reader.Reads`).

  1. `reads_string`: a text without NUL, of at most 65535 bytes.
  2. `reads_list`: at most 65535 elements with their count in front.
  3. `reads_record`: a record whose texts and lists fit (`ResourceRecord.Fits`).
  4. `record_read_back`: what is written is read back, whatever follows it; and what was read, with
     NULs at the end of strings or bytes behind the record, can be written in a form that is read as
     the same record.
-/
import DeviceEnablement.Proofs.Wire.Format

namespace DeviceEnablement

namespace ResourceRecord

open Reader (Reads)

/-! ## Strings -/

/-- Whether a text can be written: it holds no NUL and has a length of two bytes. -/
def Writable (text : String) : Prop := '\x00' ∉ text.toList ∧ (Bytes.utf8 text).length ≤ 65535

/-- A count that fits is written in two bytes. -/
theorem encodeCount_ok_iff {field : String} {count : Nat} {bytes : Bytes} :
    encodeCount field count = .ok bytes ↔ count ≤ 65535 ∧ bytes = Bytes.ofU16 (.ofNat count) := by
  unfold encodeCount
  split
  · rename_i hfits
    rw [Except.ok.injEq, eq_comm, and_iff_right hfits]
  · rename_i hlong
    exact ⟨(nomatch ·), fun h => absurd h.1 hlong⟩

/-- A count that fits is read back. -/
theorem u16_count_append {count : Nat} (hfits : count ≤ 65535) (rest : Bytes) :
    Reader.u16 (Bytes.ofU16 (.ofNat count) ++ rest) = (.ok (.ofNat count), rest) ∧
      (UInt16.ofNat count).toNat = count :=
  ⟨Reader.u16_append _ _, UInt16.toNat_ofNat_of_lt' (Nat.lt_succ_of_le hfits)⟩

theorem encodeString_ok_iff {text : String} {bytes : Bytes} :
    encodeString text = .ok bytes ↔ Writable text ∧
      bytes = Bytes.ofU16 (.ofNat (Bytes.utf8 text).length) ++ Bytes.utf8 text := by
  unfold encodeString Writable
  rw [← List.contains_iff_mem]
  split
  · rename_i hnul
    exact ⟨(nomatch ·), fun h => absurd hnul h.1.1⟩
  · rename_i hnul
    dsimp only
    rw [bind_eq_ok_iff, and_iff_right hnul]
    constructor
    · rintro ⟨length, hlength, hbytes⟩
      obtain ⟨hfits, rfl⟩ := encodeCount_ok_iff.mp hlength
      cases hbytes
      exact ⟨hfits, rfl⟩
    · rintro ⟨hfits, rfl⟩
      exact ⟨_, encodeCount_ok_iff.mpr ⟨hfits, rfl⟩, rfl⟩

/-- What holds no zero has no terminator to lose. -/
theorem withoutTerminator_of_not_mem {raw : Bytes} (hzero : 0 ∉ raw) :
    withoutTerminator raw = raw := by
  unfold withoutTerminator
  rw [if_neg fun hlast => hzero (List.mem_of_getLast? hlast)]

theorem length_withoutTerminator_le (raw : Bytes) :
    (withoutTerminator raw).length ≤ raw.length := by
  unfold withoutTerminator
  split
  · rw [List.length_dropLast]
    exact Nat.sub_le _ _
  · exact Nat.le_refl _

/-- A string is read where its bytes, without a terminator, hold no zero and are UTF-8. -/
theorem readString_ok_iff {bytes rest : Bytes} {text : String} :
    readString bytes = (.ok text, rest) ↔
      ∃ length middle raw, Reader.u16 bytes = (.ok length, middle) ∧
        Reader.take length.toNat middle = (.ok raw, rest) ∧
        0 ∉ withoutTerminator raw ∧ Bytes.text? (withoutTerminator raw) = some text := by
  unfold readString
  simp only [Reader.bind_eq_ok_iff, exists_and_left]
  refine exists_congr fun length => exists_congr fun middle => and_congr_right fun _ => ?_
  refine exists_congr fun raw => ?_
  rw [← List.contains_iff_mem]
  by_cases hzero : (withoutTerminator raw).contains 0 = true
  · rw [if_pos hzero]
    constructor
    · rintro ⟨_, -, hfail⟩
      cases hfail
    · rintro ⟨-, hnot, -⟩
      exact absurd hzero hnot
  · rw [if_neg hzero, and_iff_right hzero]
    cases Bytes.text? (withoutTerminator raw) with
    | none =>
      constructor
      · rintro ⟨_, -, hfail⟩
        cases hfail
      · rintro ⟨-, hnone⟩
        cases hnone
    | some text' =>
      constructor
      · rintro ⟨after, htake, hdone⟩
        cases hdone
        exact ⟨htake, rfl⟩
      · rintro ⟨htake, htext⟩
        cases htext
        exact ⟨rest, htake, rfl⟩

/-- A string that can be written is read back, and no other string is ever read. -/
theorem reads_string : Reads readString encodeString Writable where
  encodes_iff text := by
    simp only [encodeString_ok_iff, exists_and_left, exists_eq, and_true]
  read_append {text bytes} hencode rest := by
    obtain ⟨⟨hnul, hlength⟩, rfl⟩ := encodeString_ok_iff.mp hencode
    have hzero : 0 ∉ Bytes.utf8 text := fun hmem => hnul ((Bytes.zero_mem_utf8_iff text).mp hmem)
    obtain ⟨hcount, hvalue⟩ := u16_count_append hlength (Bytes.utf8 text ++ rest)
    rw [List.append_assoc]
    refine readString_ok_iff.mpr ⟨_, _, Bytes.utf8 text, hcount, ?_, ?_⟩
    · rw [hvalue]
      exact Reader.take_append _ _
    · rw [withoutTerminator_of_not_mem hzero]
      exact ⟨hzero, Bytes.text?_utf8 text⟩
  fits_of_read {bytes text rest} hread := by
    obtain ⟨length, middle, raw, -, htake, hzero, htext⟩ := readString_ok_iff.mp hread
    have hutf8 := Bytes.utf8_of_text? htext
    -- The count speaks of the bytes with the terminator, and of the text only thereby.
    constructor
    · rwa [← Bytes.zero_mem_utf8_iff, hutf8]
    · have hraw := Reader.length_of_take htake
      have hle := length_withoutTerminator_le raw
      have hlength := length.toNat_lt
      rw [hutf8]
      omega

/-! ## Lists -/

variable {α : Type} {element : Reader α} {write : α → Except MessageError Bytes} {fits : α → Prop}

theorem encodeList_ok_iff {field : String} {values : List α} {bytes : Bytes} :
    encodeList field write values = .ok bytes ↔ values.length ≤ 65535 ∧
      ∃ body, encodeAllOnto write [] values = .ok body ∧
        bytes = Bytes.ofU16 (.ofNat values.length) ++ body := by
  unfold encodeList
  rw [bind_eq_ok_iff]
  simp only [encodeCount_ok_iff, bind_eq_ok_iff]
  constructor
  · rintro ⟨count, ⟨hfits, rfl⟩, body, hbody, hbytes⟩
    cases hbytes
    exact ⟨hfits, body, hbody, rfl⟩
  · rintro ⟨hfits, body, hbody, rfl⟩
    exact ⟨_, ⟨hfits, rfl⟩, body, hbody, rfl⟩

/-- A list is read and written when its elements are and their number has two bytes. -/
theorem reads_list (h : Reads element write fits) (field : String) :
    Reads (readList element) (encodeList field write)
      (fun values => values.length ≤ 65535 ∧ ∀ value ∈ values, fits value) where
  encodes_iff values := by
    rw [← h.encodesAll_iff []]
    simp only [encodeList_ok_iff]
    constructor
    · rintro ⟨_, hfits, body, hbody, -⟩
      exact ⟨hfits, body, hbody⟩
    · rintro ⟨hfits, body, hbody⟩
      exact ⟨_, hfits, body, hbody, rfl⟩
  read_append {values bytes} hencode rest := by
    obtain ⟨hfits, body, hbody, rfl⟩ := encodeList_ok_iff.mp hencode
    obtain ⟨_, rfl, hread⟩ := h.manyOnto_append hbody
    obtain ⟨hcount, hvalue⟩ := u16_count_append hfits (body ++ rest)
    rw [List.append_assoc]
    unfold readList
    rw [Reader.bind_ok hcount, hvalue]
    exact hread [] rest
  fits_of_read {bytes values rest} hread := by
    obtain ⟨count, middle, -, hmany⟩ := Reader.bind_eq_ok_iff.mp hread
    obtain ⟨_, rfl, hlength, hfits⟩ := h.fits_of_manyOnto hmany
    have hcount := count.toNat_lt
    exact ⟨by omega, hfits⟩

/-! ## Additional resources -/

theorem encodeAdditional_ok_iff {a : AdditionalResource} {bytes : Bytes} :
    encodeAdditional a = .ok bytes ↔
      ∃ name, encodeString a.name = .ok name ∧ bytes = Bytes.ofU32 a.resourceId ++ name := by
  unfold encodeAdditional
  rw [bind_eq_ok_iff]
  refine exists_congr fun name => and_congr_right fun _ => ?_
  exact ⟨fun h => (Except.ok.inj h).symm, fun h => congrArg Except.ok h.symm⟩

theorem reads_additional :
    Reads readAdditional encodeAdditional (fun a => Writable a.name) where
  encodes_iff a := by
    simp only [encodeAdditional_ok_iff]
    rw [← reads_string.encodes_iff, exists_comm]
    simp only [exists_and_left, exists_eq, and_true]
  read_append {a bytes} hencode rest := by
    obtain ⟨name, hname, rfl⟩ := encodeAdditional_ok_iff.mp hencode
    rw [List.append_assoc]
    unfold readAdditional
    rw [Reader.bind_ok (Reader.u32_append _ _),
      Reader.bind_ok (reads_string.read_append hname rest)]
    rfl
  fits_of_read {bytes a rest} hread := by
    obtain ⟨id, middle, -, hread⟩ := Reader.bind_eq_ok_iff.mp hread
    obtain ⟨name, after, hname, hdone⟩ := Reader.bind_eq_ok_iff.mp hread
    cases hdone
    exact reads_string.fits_of_read hname

/-! ## Records -/

/-- All texts of a record. -/
def texts (r : ResourceRecord) : List String :=
  [r.proposedName, r.subUri, r.schemaName] ++ r.additional.map AdditionalResource.name ++ r.oemNames

/-- Whether a record can be written: its texts can, and its lists have a count of two bytes. -/
def Fits (r : ResourceRecord) : Prop :=
  (∀ text ∈ r.texts, Writable text) ∧ r.additional.length ≤ 65535 ∧ r.oemNames.length ≤ 65535

/-- A record fits when each of its parts does. -/
theorem fits_iff (r : ResourceRecord) :
    r.Fits ↔ Writable r.proposedName ∧ Writable r.subUri ∧
      (r.additional.length ≤ 65535 ∧ ∀ a ∈ r.additional, Writable a.name) ∧
      Writable r.schemaName ∧ (r.oemNames.length ≤ 65535 ∧ ∀ name ∈ r.oemNames, Writable name) := by
  unfold Fits texts
  simp only [List.forall_mem_append, List.forall_mem_cons, List.forall_mem_map]
  constructor
  · rintro ⟨⟨⟨⟨hname, huri, hschema, -⟩, hadditional⟩, hoem⟩, hcount, hcountOem⟩
    exact ⟨hname, huri, ⟨hcount, hadditional⟩, hschema, hcountOem, hoem⟩
  · rintro ⟨hname, huri, ⟨hcount, hadditional⟩, hschema, hcountOem, hoem⟩
    exact ⟨⟨⟨⟨hname, huri, hschema, fun _ hmem => absurd hmem List.not_mem_nil⟩, hadditional⟩,
      hoem⟩, hcount, hcountOem⟩

theorem encode_ok_iff {r : ResourceRecord} {bytes : Bytes} :
    r.encode = .ok bytes ↔ ∃ proposedName subUri additional schemaName oemNames,
      encodeString r.proposedName = .ok proposedName ∧ encodeString r.subUri = .ok subUri ∧
      encodeList "additional resources" encodeAdditional r.additional = .ok additional ∧
      encodeString r.schemaName = .ok schemaName ∧
      encodeList "OEM names" encodeString r.oemNames = .ok oemNames ∧
      bytes = Bytes.ofU32 r.resourceId ++ [r.flags] ++ Bytes.ofU32 r.containerId ++ proposedName
        ++ subUri ++ additional
        ++ [r.version.major, r.version.minor, r.version.revision, r.version.alpha]
        ++ Bytes.ofU16 r.dictionaryLength ++ Bytes.ofU32 r.dictionarySignature ++ schemaName
        ++ oemNames := by
  unfold encode
  simp only [bind_eq_ok_iff]
  constructor
  · rintro ⟨_, hname, _, huri, _, hadditional, _, hschema, _, hoem, hbytes⟩
    cases hbytes
    exact ⟨_, _, _, _, _, hname, huri, hadditional, hschema, hoem, rfl⟩
  · rintro ⟨_, _, _, _, _, hname, huri, hadditional, hschema, hoem, rfl⟩
    exact ⟨_, hname, _, huri, _, hadditional, _, hschema, _, hoem, rfl⟩

theorem readVersion_append (version : SchemaVersion) (rest : Bytes) :
    readVersion ([version.major, version.minor, version.revision, version.alpha] ++ rest) =
      (.ok version, rest) := rfl

/-- A record that fits is written and read back, and only such records are ever read. -/
theorem reads_record : Reads read encode Fits where
  encodes_iff r := by
    rw [fits_iff, ← reads_string.encodes_iff, ← reads_string.encodes_iff,
      ← (reads_list reads_additional "additional resources").encodes_iff,
      ← reads_string.encodes_iff, ← (reads_list reads_string "OEM names").encodes_iff]
    simp only [encode_ok_iff]
    constructor
    · rintro ⟨_, _, _, _, _, _, hname, huri, hadditional, hschema, hoem, -⟩
      exact ⟨⟨_, hname⟩, ⟨_, huri⟩, ⟨_, hadditional⟩, ⟨_, hschema⟩, ⟨_, hoem⟩⟩
    · rintro ⟨⟨_, hname⟩, ⟨_, huri⟩, ⟨_, hadditional⟩, ⟨_, hschema⟩, ⟨_, hoem⟩⟩
      exact ⟨_, _, _, _, _, _, hname, huri, hadditional, hschema, hoem, rfl⟩
  read_append {r bytes} hencode rest := by
    obtain ⟨_, _, _, _, _, hname, huri, hadditional, hschema, hoem, rfl⟩ := encode_ok_iff.mp hencode
    -- With the parts one behind the other, each reader finds its own in front.
    simp only [List.append_assoc]
    unfold read
    rw [Reader.bind_ok (Reader.u32_append _ _), List.singleton_append,
      Reader.bind_ok (Reader.u8_cons _ _), Reader.bind_ok (Reader.u32_append _ _),
      Reader.bind_ok (reads_string.read_append hname _),
      Reader.bind_ok (reads_string.read_append huri _),
      Reader.bind_ok ((reads_list reads_additional _).read_append hadditional _),
      Reader.bind_ok (readVersion_append _ _), Reader.bind_ok (Reader.u16_append _ _),
      Reader.bind_ok (Reader.u32_append _ _),
      Reader.bind_ok (reads_string.read_append hschema _),
      Reader.bind_ok ((reads_list reads_string _).read_append hoem _)]
    rfl
  fits_of_read {bytes r rest} hread := by
    unfold read at hread
    simp only [Reader.bind_eq_ok_iff] at hread
    obtain ⟨_, _, -, _, _, -, _, _, -, _, _, hname, _, _, huri, _, _, hadditional, _, _, -, _, _, -,
      _, _, -, _, _, hschema, _, _, hoem, hdone⟩ := hread
    cases hdone
    exact (fits_iff _).mpr ⟨reads_string.fits_of_read hname, reads_string.fits_of_read huri,
      (reads_list reads_additional "additional resources").fits_of_read hadditional,
      reads_string.fits_of_read hschema,
      (reads_list reads_string "OEM names").fits_of_read hoem⟩

theorem decode_ok_iff {bytes : Bytes} {r : ResourceRecord} :
    decode bytes = .ok r ↔ ∃ rest, read bytes = (.ok r, rest) := by
  constructor
  · intro h
    exact ⟨(read bytes).2, Prod.ext h rfl⟩
  · rintro ⟨rest, h⟩
    exact congrArg Prod.fst h

/-- A record can be written exactly when its texts hold no NUL and have at most 65535 bytes each,
and its lists have at most 65535 elements; it is then read back, whatever follows it.  A record that
was read, also with a NUL at the end of a string or with bytes behind it, can be written, and what
is written is read as the same record. -/
theorem record_read_back (r : ResourceRecord) :
    ((∃ bytes, r.encode = .ok bytes) ↔
      (∀ text ∈ r.texts, '\x00' ∉ text.toList ∧ (Bytes.utf8 text).length ≤ 65535) ∧
        r.additional.length ≤ 65535 ∧ r.oemNames.length ≤ 65535) ∧
    (∀ bytes, r.encode = .ok bytes → ∀ rest, decode (bytes ++ rest) = .ok r) ∧
    (∀ bytes, decode bytes = .ok r →
      ∃ written, r.encode = .ok written ∧ decode written = .ok r) := by
  have hback : ∀ bytes, r.encode = .ok bytes → ∀ rest, decode (bytes ++ rest) = .ok r :=
    fun bytes hencode rest => decode_ok_iff.mpr ⟨rest, reads_record.read_append hencode rest⟩
  -- What was read fits, so it is written; and what is written is read back.
  refine ⟨reads_record.encodes_iff r, hback, fun bytes hdecode => ?_⟩
  obtain ⟨rest, hread⟩ := decode_ok_iff.mp hdecode
  obtain ⟨written, hwritten⟩ := (reads_record.encodes_iff r).mpr (reads_record.fits_of_read hread)
  refine ⟨written, hwritten, ?_⟩
  rw [← List.append_nil written]
  exact hback written hwritten []

/-- A record with an additional resource and a vendor's name. -/
def sampleRecord : ResourceRecord where
  resourceId := 1
  flags := 0
  containerId := 0
  proposedName := "Chassis"
  subUri := ""
  additional := [{ resourceId := 2, name := "Fan" }]
  version := ⟨0xf1, 0xf0, 0xf0, 0⟩
  dictionaryLength := 64
  dictionarySignature := 7
  schemaName := "é"
  oemNames := ["x"]

/-- The bytes of `sampleRecord`, with a NUL at the end of the first string if `terminated`. -/
def sampleBytes (terminated : Bool) : Bytes :=
  [1, 0, 0, 0, 0, 0, 0, 0, 0] ++
    (if terminated then [8, 0, 67, 104, 97, 115, 115, 105, 115, 0]
      else [7, 0, 67, 104, 97, 115, 115, 105, 115]) ++
    [0, 0, 1, 0, 2, 0, 0, 0, 3, 0, 70, 97, 110, 0xf1, 0xf0, 0xf0, 0, 64, 0, 7, 0, 0, 0,
      2, 0, 0xc3, 0xa9, 1, 0, 1, 0, 120]

/-- A NUL at the end of a string and bytes behind the record are read over, and not written. -/
theorem record_read_back_terminated :
    decode (sampleBytes true ++ [1, 2, 3]) = .ok sampleRecord ∧
      sampleRecord.encode = .ok (sampleBytes false) ∧
      (∃ written, sampleRecord.encode = .ok written ∧ decode written = .ok sampleRecord) ∧
      decode (sampleBytes false ++ [9]) = .ok sampleRecord :=
  ⟨rfl, rfl, (record_read_back sampleRecord).2.2 (sampleBytes true ++ [1, 2, 3]) rfl,
    (record_read_back sampleRecord).2.1 (sampleBytes false) rfl [9]⟩

end ResourceRecord

end DeviceEnablement
