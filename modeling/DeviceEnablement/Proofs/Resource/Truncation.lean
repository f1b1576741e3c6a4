/-
  Resource records that are cut short.

  A record has no fixed length: strings and lists stand behind their lengths and counts, one in the
  other.  Each part is consumed as a whole (`Reader.Consumes`), so wherever a record breaks off, the
  reader runs out of bytes before it looks at a text that is not all there.

  1. `consumes_string`, `consumes_list`, `consumes_additional`, `consumes_record`: the parts.
  2. `cut_record_refused`: no part of a record is taken for a record.
-/
import DeviceEnablement.Proofs.Resource.Record
import DeviceEnablement.Proofs.Wire.Truncation

namespace DeviceEnablement.ResourceRecord

open Reader (Consumes)

variable {bytes : Bytes}

/-! ## Parts -/

/-- The length of a string is compared with what is left before the text is looked at. -/
theorem consumes_string {text : String} (hencode : encodeString text = .ok bytes) :
    Consumes readString text bytes where
  read_append := reads_string.read_append hencode
  runsOut part hpart hcut := by
    obtain ⟨⟨-, hlength⟩, rfl⟩ := encodeString_ok_iff.mp hencode
    unfold readString
    rcases Reader.part_of_append hpart hcut with
      ⟨hcount, hbroken⟩ | ⟨part', rfl, htext, hbroken⟩
    · exact ((Reader.consumes_u16 _).runsOut part hcount hbroken).bind _
    · obtain ⟨hread, hvalue⟩ := u16_count_append hlength part'
      refine .after hread (.bind ?_ _)
      rw [hvalue]
      exact (Reader.consumes_take _).runsOut part' htext hbroken

theorem consumes_list {α : Type} {element : Reader α} {write : α → Except MessageError Bytes}
    (h : ∀ {value bytes}, write value = .ok bytes → Consumes element value bytes) {field : String}
    {values : List α} (hencode : encodeList field write values = .ok bytes) :
    Consumes (readList element) values bytes := by
  obtain ⟨hfits, body, hbody, rfl⟩ := encodeList_ok_iff.mp hencode
  obtain ⟨_, rfl, helements⟩ := Reader.consumes_manyOnto h hbody
  obtain ⟨-, hvalue⟩ := u16_count_append hfits []
  refine (Reader.consumes_u16 _).bind ?_
  rw [hvalue]
  exact helements []

theorem consumes_additional {a : AdditionalResource} (hencode : encodeAdditional a = .ok bytes) :
    Consumes readAdditional a bytes := by
  obtain ⟨name, hname, rfl⟩ := encodeAdditional_ok_iff.mp hencode
  exact (Reader.consumes_u32 _).bind ((consumes_string hname).map _)

theorem consumes_version (version : SchemaVersion) :
    Consumes readVersion version [version.major, version.minor, version.revision, version.alpha]
    where
  read_append _ := rfl
  runsOut part hpart hcut := by
    have hshort : part.length < 4 := Reader.length_lt_of_part hpart hcut
    refine ⟨4, part.length, part, ?_, hshort⟩
    rcases part with _ | ⟨a, _ | ⟨b, _ | ⟨c, _ | ⟨d, tail⟩⟩⟩⟩
    · rfl
    · rfl
    · rfl
    · rfl
    · simp only [List.length_cons] at hshort
      omega

/-! ## Records -/

theorem consumes_record {r : ResourceRecord} (hencode : r.encode = .ok bytes) :
    Consumes read r bytes := by
  obtain ⟨_, _, _, _, _, hname, huri, hadditional, hschema, hoem, rfl⟩ := encode_ok_iff.mp hencode
  simp only [List.append_assoc]
  exact (Reader.consumes_u32 _).bind <| (Reader.consumes_u8 _).bind <|
    (Reader.consumes_u32 _).bind <| (consumes_string hname).bind <| (consumes_string huri).bind <|
    (consumes_list consumes_additional hadditional).bind <| (consumes_version _).bind <|
    (Reader.consumes_u16 _).bind <| (Reader.consumes_u32 _).bind <|
    (consumes_string hschema).bind <| (consumes_list consumes_string hoem).map _

/-- Whatever part of a record is left when bytes at its end are missing, reading it fails because the
bytes come to an end, and in no other way: a number, a length, a text or a list is never looked at
before it is all there. -/
theorem cut_record_refused {r : ResourceRecord} {part : Bytes} (hencode : r.encode = .ok bytes)
    (hpart : part <+: bytes) (hcut : part ≠ bytes) :
    ∃ needed remaining, decode part = .error (.truncated needed remaining) ∧ remaining < needed :=
  ((consumes_record hencode).runsOut part hpart hcut).run

/-- A record that breaks off within a character is cut short, and not a text that is not UTF-8. -/
theorem cut_record_refused_in_character :
    sampleRecord.encode = .ok (sampleBytes false) ∧
      ((sampleBytes false).take 44).getLast? = some 0xc3 ∧
      ∃ needed remaining, decode ((sampleBytes false).take 44) =
        .error (.truncated needed remaining) ∧ remaining < needed :=
  ⟨rfl, rfl, cut_record_refused (r := sampleRecord) rfl (List.take_prefix 44 (sampleBytes false))
    (by decide)⟩

end DeviceEnablement.ResourceRecord
