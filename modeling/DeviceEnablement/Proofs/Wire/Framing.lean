/-
  The frame of a chunk.

  A chunk travels behind a length, which counts the check on the last chunk and would count nothing but
  data on any other.  Reader and writer each allow for the check on their own, and they agree: what is
  written is read back, and what is read was written.

  1. `MultipartReceiveResponse.encodes_iff`, `consumes`: which chunks are written, and that the written
     form is read back.
  2. `MultipartReceiveResponse.decode_final`: how the body of a last chunk is read.
  3. `framing_exact`: both directions, and where the check of a last chunk stands.
-/
import DeviceEnablement.Proofs.Wire.Chunk
import DeviceEnablement.Proofs.Wire.Response

namespace DeviceEnablement

open Reader (Consumes)

namespace MultipartReceiveResponse

variable {r : MultipartReceiveResponse} {bytes : Bytes}

/-! ## Writing and reading -/

theorem encodes_iff : (∃ bytes, r.encode = .ok bytes) ↔ r.checksum.isSome = r.flag.isEnd := by
  simp only [encode_ok_iff]
  exact ⟨fun ⟨_, hplace, _⟩ => hplace, fun hplace => ⟨_, hplace, rfl⟩⟩

/-- The reader takes from the length what the writer has added to it. -/
theorem consumes (hsize : r.data.length + (trailerBytes r.checksum).length < UInt32.size)
    (hencode : r.encode = .ok bytes) : Consumes (Reader.afterSuccess fields) r bytes := by
  obtain ⟨hplace, rfl⟩ := encode_ok_iff.mp hencode
  have hflag : Consumes (Reader.ofExcept (TransferFlag.ofCode r.flag.code)) r.flag [] :=
    Reader.consumes_nothing fun _ =>
      Reader.ofExcept_eq_ok_iff.mpr ⟨TransferFlag.ofCode_code r.flag, rfl⟩
  refine Reader.consumes_afterSuccess ?_
  refine (Reader.consumes_u8 _).bind <| hflag.bind <| (Reader.consumes_u32 _).bind <|
    (Reader.consumes_u32 _).bind ?_
  rw [UInt32.toNat_ofNat_of_lt' hsize, ← hplace]
  obtain ⟨flag, next, data, checksum⟩ := r
  dsimp only
  rcases checksum with _ | check
  · rw [if_neg (by decide)]
    show Consumes (Reader.take data.length >>= _) _ (data ++ [])
    rw [List.append_nil]
    exact (Reader.consumes_take data).map _
  · have hcounted : data.length + (trailerBytes (some check)).length = data.length + checksumSize :=
      rfl
    rw [hcounted, if_pos Option.isSome_some, if_neg (by omega), Nat.add_sub_cancel]
    exact (Reader.consumes_take data).bind ((Reader.consumes_u32 check).map _)

/-! ## Reading a last chunk -/

/-- The body of a response that counts `size` bytes behind its length. -/
def announcing (flag : TransferFlag) (next size : UInt32) (tail : Bytes) : Bytes :=
  [CompletionCode.success.toByte, flag.code] ++ Bytes.ofU32 next ++ Bytes.ofU32 size ++ tail

variable {flag : TransferFlag}

/-- The last four of the bytes that are counted on a last chunk are the check. -/
theorem decode_final (hlast : flag.isEnd = true) (next size : UInt32) (tail : Bytes) :
    decode (announcing flag next size tail) =
      if size.toNat < checksumSize then
        .error (.invalidLength "multipart data length" size.toNat)
      else (Reader.take (size.toNat - checksumSize) >>= fun data => Reader.u32 >>= fun check =>
        pure { flag, nextHandle := next, data, checksum := some check : MultipartReceiveResponse }).run
          tail := by
  have hcode : ∀ rest, Reader.ofExcept (TransferFlag.ofCode flag.code) rest = (.ok flag, rest) :=
    fun _ => Reader.ofExcept_eq_ok_iff.mpr ⟨TransferFlag.ofCode_code flag, rfl⟩
  have hfields : decode (announcing flag next size tail) =
      (fields (flag.code :: (Bytes.ofU32 next ++ (Bytes.ofU32 size ++ tail)))).1 := rfl
  unfold fields at hfields
  rw [hfields, Reader.bind_ok (Reader.u8_cons _ _), Reader.bind_ok (hcode _),
    Reader.bind_ok (Reader.u32_append next _), Reader.bind_ok (Reader.u32_append size tail)]
  unfold Reader.run
  rw [if_pos hlast]
  split
  · rfl
  · rfl

/-- What is counted on a last chunk is its data and the check behind it. -/
theorem counted_of_decode_final (hlast : flag.isEnd = true) {next size : UInt32} {tail : Bytes}
    (h : decode (announcing flag next size tail) = .ok r) :
    ∃ check, r.checksum = some check ∧ r.data ++ Bytes.ofU32 check = tail.take size.toNat ∧
      r.data.length + checksumSize = size.toNat := by
  rw [decode_final hlast] at h
  split at h
  · cases h
  · rename_i hcounted
    obtain ⟨_, hread⟩ := Reader.run_eq_ok_iff.mp h
    simp only [Reader.bind_eq_ok_iff] at hread
    obtain ⟨data, _, hdata, check, rest, hcheck, hr⟩ := hread
    cases hr
    have hlength := Reader.length_of_take hdata
    have hsize : data.length + checksumSize = size.toNat := by omega
    refine ⟨check, rfl, ?_, hsize⟩
    rw [Reader.eq_append_of_take hdata, Reader.eq_append_of_u32 hcheck, ← List.append_assoc]
    refine (List.take_left' ?_).symm
    rw [List.length_append, Bytes.length_ofU32]
    exact hsize

/-- The frame of a chunk, from both ends.  A chunk is written exactly when it has a check on the last
chunk and none on any other, and what is written is read back whatever follows it.  What can be read of
any bytes is a chunk that can be written, and the bytes begin with its written form.  So on a last chunk
the bytes that are counted are the data and four more, which are the check, and a length that leaves no
room for the check is refused. -/
theorem framing_exact (r : MultipartReceiveResponse) :
    ((∃ bytes, r.encode = .ok bytes) ↔ r.checksum.isSome = r.flag.isEnd) ∧
    (r.data.length + (trailerBytes r.checksum).length < UInt32.size →
      ∀ bytes, r.encode = .ok bytes → ∀ rest, decode (bytes ++ rest) = .ok r) ∧
    (∀ bytes, decode bytes = .ok r → ∃ written, r.encode = .ok written ∧ written <+: bytes) ∧
    (∀ (flag : TransferFlag) (next size : UInt32) (tail : Bytes), flag.isEnd = true →
      (size.toNat < checksumSize → decode (announcing flag next size tail) =
        .error (.invalidLength "multipart data length" size.toNat)) ∧
      (decode (announcing flag next size tail) = .ok r →
        ∃ check, r.checksum = some check ∧ r.data ++ Bytes.ofU32 check = tail.take size.toNat ∧
          r.data.length + checksumSize = size.toNat)) := by
  refine ⟨encodes_iff, fun hsize bytes hencode => ?_, fun bytes => encode_of_decode,
    fun flag next size tail hlast => ⟨fun hshort => ?_, counted_of_decode_final hlast⟩⟩
  · exact (consumes hsize hencode).run_append
  · rw [decode_final hlast, if_pos hshort]

/-- The last chunk of a transfer, with a check behind three bytes of data. -/
def lastChunk : MultipartReceiveResponse :=
  { flag := .finish, nextHandle := 0, data := [0x61, 0x62, 0x63], checksum := some 0x352441c2 }

/-- The bytes of `lastChunk`. -/
def lastChunkBytes : Bytes :=
  [0, 2, 0, 0, 0, 0, 7, 0, 0, 0, 0x61, 0x62, 0x63, 0xc2, 0x41, 0x24, 0x35]

/-- A last chunk is read back although something follows that could be data, and a length of three is
refused although there are enough bytes. -/
theorem framing_exact_last :
    lastChunk.encode = .ok lastChunkBytes ∧ decode (lastChunkBytes ++ [0x64, 0x65]) = .ok lastChunk ∧
      (∃ written, lastChunk.encode = .ok written ∧ written <+: lastChunkBytes ++ [0x64, 0x65]) ∧
      decode (announcing .startAndEnd 0 3 [0x61, 0x62, 0x63, 0x64, 0x65]) =
        .error (.invalidLength "multipart data length" 3) :=
  have hencode : lastChunk.encode = .ok lastChunkBytes := rfl
  have hdecode : decode (lastChunkBytes ++ [0x64, 0x65]) = .ok lastChunk :=
    (framing_exact lastChunk).2.1 (by decide) lastChunkBytes hencode [0x64, 0x65]
  ⟨hencode, hdecode, (framing_exact lastChunk).2.2.1 _ hdecode,
    ((framing_exact lastChunk).2.2.2 .startAndEnd 0 3 _ rfl).1 (by decide)⟩

end MultipartReceiveResponse

end DeviceEnablement
