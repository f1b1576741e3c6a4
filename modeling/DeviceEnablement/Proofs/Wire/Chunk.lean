/-
  The chunks in the responses of a device.

  1. `Reader.run_afterSuccess`: a body is read only behind the completion code of success; with any
     other code it is an error (`decode_declined`).
  2. `MultipartReceiveResponse.encode_of_decode`: what was read of a chunk is the chunk as it is written.
  3. `MultipartReceiveResponse.CarriedBy`: how a body carries a chunk.  The check stands behind the data
     of the last chunk, and is no part of it (`carriedBy_of_decode`).
-/
import DeviceEnablement.Message.Response
import DeviceEnablement.Proofs.Wire.Format

namespace DeviceEnablement

/-! ## The completion code -/

theorem CompletionCode.eq_of_isSuccess {b : UInt8} (h : (ofByte b).isSuccess = true) :
    b = success.toByte := by
  have hsuccess : ofByte b = success := of_decide_eq_true h
  rw [← toByte_ofByte b, hsuccess]

theorem Reader.run_eq_ok_iff {α : Type} {read : Reader α} {bytes : Bytes} {value : α} :
    read.run bytes = .ok value ↔ ∃ rest, read bytes = (.ok value, rest) :=
  ⟨fun h => ⟨_, Prod.ext h rfl⟩, fun ⟨_, h⟩ => congrArg Prod.fst h⟩

/-- The fields of a response are read behind the code of success. -/
theorem Reader.run_afterSuccess {α : Type} {fields : Reader α} {body : Bytes} {value : α}
    (h : (afterSuccess fields).run body = .ok value) :
    ∃ after rest, body = CompletionCode.success.toByte :: after ∧
      fields after = (.ok value, rest) := by
  obtain ⟨_, hread⟩ := run_eq_ok_iff.mp h
  obtain ⟨code, after, hcode, hfields⟩ := bind_eq_ok_iff.mp hread
  split at hfields
  · rename_i hsuccess
    refine ⟨after, _, ?_, hfields⟩
    rw [eq_cons_of_u8 hcode, CompletionCode.eq_of_isSuccess hsuccess]
  · cases hfields

/-- A response with another code is not read any further. -/
theorem Reader.run_afterSuccess_of_declined {α : Type} (fields : Reader α) {code : UInt8}
    (hdeclined : (CompletionCode.ofByte code).isSuccess = false) (after : Bytes) :
    (afterSuccess fields).run (code :: after) = .error (.completion (.ofByte code)) := by
  have hread : afterSuccess fields (code :: after) =
      (if (CompletionCode.ofByte code).isSuccess then fields
        else fail (.completion (.ofByte code))) after :=
    bind_ok (u8_cons code after)
  unfold run
  rw [hread, hdeclined]
  rfl

/-! ## Chunks -/

theorem TransferFlag.code_of_ofCode {b : UInt8} {flag : TransferFlag} (h : ofCode b = .ok flag) :
    b = flag.code := by
  unfold ofCode at h
  split at h
  · cases h
    rfl
  · cases h
    rfl
  · cases h
    rfl
  · cases h
    rfl
  · cases h

theorem TransferFlag.ofCode_code (flag : TransferFlag) : ofCode flag.code = .ok flag := by
  cases flag <;> rfl

/-- A check stands behind the last chunk and behind no other. -/
theorem TransferFlag.trailer_ok_iff {flag : TransferFlag} {checksum trailer : Option UInt32} :
    flag.trailer checksum = .ok trailer ↔ checksum.isSome = flag.isEnd ∧ trailer = checksum := by
  unfold TransferFlag.trailer
  rcases flag.isEnd with _ | _ <;> rcases checksum with _ | crc
  · rw [Except.ok.injEq, eq_comm]
    exact (and_iff_right rfl).symm
  · exact ⟨(nomatch ·), (nomatch ·.1)⟩
  · exact ⟨(nomatch ·), (nomatch ·.1)⟩
  · rw [Except.ok.injEq, eq_comm]
    exact (and_iff_right rfl).symm

namespace MultipartReceiveResponse

variable {chunk : MultipartReceiveResponse} {body : Bytes}

/-- A chunk is written when it has a check exactly where one belongs; the length in front of the data
    counts the check. -/
theorem encode_ok_iff : chunk.encode = .ok body ↔ chunk.checksum.isSome = chunk.flag.isEnd ∧
    [CompletionCode.success.toByte, chunk.flag.code] ++ Bytes.ofU32 chunk.nextHandle
      ++ Bytes.ofU32 (.ofNat (chunk.data.length + (trailerBytes chunk.checksum).length))
      ++ chunk.data ++ trailerBytes chunk.checksum = body := by
  unfold encode
  simp only [bind_eq_ok_iff, TransferFlag.trailer_ok_iff]
  constructor
  · rintro ⟨_, ⟨hplace, rfl⟩, hbody⟩
    exact ⟨hplace, Except.ok.inj hbody⟩
  · rintro ⟨hplace, hbody⟩
    exact ⟨_, ⟨hplace, rfl⟩, congrArg _ hbody⟩

theorem decode_declined {code : UInt8} (h : (CompletionCode.ofByte code).isSuccess = false)
    (after : Bytes) : decode (code :: after) = .error (.completion (.ofByte code)) :=
  Reader.run_afterSuccess_of_declined fields h after

/-- A chunk that was read stands in front of what follows it as it is written. -/
theorem encode_of_decode (h : decode body = .ok chunk) :
    ∃ written, chunk.encode = .ok written ∧ written <+: body := by
  obtain ⟨after, rest, rfl, hfields⟩ := Reader.run_afterSuccess h
  unfold fields at hfields
  simp only [Reader.bind_eq_ok_iff] at hfields
  obtain ⟨code, r₁, hcode, flag, r₂, hflag, next, r₃, hnext, size, r₄, hsize, hdata⟩ := hfields
  obtain ⟨hkind, rfl⟩ := Reader.ofExcept_eq_ok_iff.mp hflag
  rw [Reader.eq_cons_of_u8 hcode, TransferFlag.code_of_ofCode hkind, Reader.eq_append_of_u32 hnext,
    Reader.eq_append_of_u32 hsize]
  split at hdata
  · rename_i hlast
    split at hdata
    · cases hdata
    · rename_i hcounted
      simp only [Reader.bind_eq_ok_iff] at hdata
      obtain ⟨data, r₅, hdata, check, _, hcheck, hchunk⟩ := hdata
      cases hchunk
      have hlength := Reader.length_of_take hdata
      refine ⟨_, encode_ok_iff.mpr ⟨hlast.symm, rfl⟩, rest, ?_⟩
      have hcount : data.length + (trailerBytes (some check)).length = size.toNat := by
        show data.length + checksumSize = size.toNat
        omega
      rw [hcount, Reader.eq_append_of_take hdata, Reader.eq_append_of_u32 hcheck,
        UInt32.ofNat_toNat]
      simp only [trailerBytes, List.cons_append, List.nil_append, List.append_assoc]
  · rename_i hmore
    simp only [Reader.bind_eq_ok_iff] at hdata
    obtain ⟨data, _, hdata, hchunk⟩ := hdata
    cases hchunk
    have hlength := Reader.length_of_take hdata
    refine ⟨_, encode_ok_iff.mpr ⟨(Bool.eq_false_iff.mpr hmore).symm, rfl⟩, rest, ?_⟩
    have hcount : data.length + (trailerBytes none).length = size.toNat := hlength
    rw [hcount, Reader.eq_append_of_take hdata, UInt32.ofNat_toNat]
    simp only [trailerBytes, List.cons_append, List.nil_append, List.append_assoc]

/-- Whether a body carries a chunk: behind the code of success, the flag, the next handle and a length
    stand the data and, if the chunk is the last one, four bytes of a check, which the length counts.
    Whatever follows is not looked at. -/
def CarriedBy (chunk : MultipartReceiveResponse) (body : Bytes) : Prop :=
  ∃ check rest,
    body = [CompletionCode.success.toByte, chunk.flag.code] ++ Bytes.ofU32 chunk.nextHandle
      ++ Bytes.ofU32 (.ofNat (chunk.data.length + check.length)) ++ chunk.data ++ check ++ rest ∧
    check.length = if chunk.flag.isEnd then checksumSize else 0

/-- What was read carries the chunk, and the check is no part of the data. -/
theorem carriedBy_of_decode (h : decode body = .ok chunk) : chunk.CarriedBy body := by
  obtain ⟨written, hencode, rest, rfl⟩ := encode_of_decode h
  obtain ⟨hplace, rfl⟩ := encode_ok_iff.mp hencode
  refine ⟨_, rest, rfl, ?_⟩
  rw [← hplace]
  cases chunk.checksum with
  | none => rfl
  | some crc => rfl

end MultipartReceiveResponse

end DeviceEnablement
