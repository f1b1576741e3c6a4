/-
  Requests, as the other side finds them.

  A request is only ever written here.  Whoever receives it has nothing but its bytes, in which two parts
  have no fixed length, each behind a length of its own width, and a check may follow that is counted
  with the data.  So we read a request the way a device would, and see that all of it comes back.

  1. `OperationInitRequest.encode_ok_iff`, `MultipartSendRequest.encode_ok_iff`: when a request is
     written, and as which bytes.
  2. `OperationInitRequest.read`, `MultipartSendRequest.read`: the other side.  `consumes`: what it reads
     is the request, whatever follows.
  3. `FramedIn`: the lengths in a body count what stands behind them.
  4. `requests_unambiguous`: no two requests have the same body.
-/
import DeviceEnablement.Proofs.Wire.Chunk
import DeviceEnablement.Proofs.Wire.Truncation

namespace DeviceEnablement

open Reader (Consumes)

/-- Bytes are consumed for one value only. -/
theorem Reader.Consumes.unique {α : Type} {read : Reader α} {a b : α} {written : Bytes}
    (h : Consumes read a written) (h' : Consumes read b written) : a = b := by
  have hread : ((.ok a, []) : Except MessageError α × Bytes) = (.ok b, []) :=
    (h.read_append []).symm.trans (h'.read_append [])
  exact Except.ok.inj (congrArg Prod.fst hread)

/-! ## The start of an operation -/

theorem OperationType.ofCode_code (operation : OperationType) :
    ofCode operation.code = .ok operation := by
  cases operation <;> rfl

namespace OperationInitRequest

variable {r : OperationInitRequest} {body : Bytes}

/-- A request is written when its locator and its payload are not too long for their lengths. -/
theorem encode_ok_iff : r.encode = .ok body ↔
    (r.locator.length ≤ 255 ∧ r.payload.length ≤ maxU32) ∧
      Bytes.ofU32 r.resourceId ++ Bytes.ofU16 r.operationId ++ [r.operation.code, r.flags.bits]
        ++ Bytes.ofU32 r.sendHandle ++ [.ofNat r.locator.length]
        ++ Bytes.ofU32 (.ofNat r.payload.length) ++ r.locator ++ r.payload = body := by
  unfold encode
  split
  · constructor
    · intro h
      cases h
    · rintro ⟨⟨hlocator, -⟩, -⟩
      omega
  · split
    · constructor
      · intro h
        cases h
      · rintro ⟨⟨-, hpayload⟩, -⟩
        omega
    · rw [Except.ok.injEq]
      constructor
      · intro h
        refine ⟨⟨?_, ?_⟩, h⟩
        · omega
        · omega
      · intro h
        exact h.2

theorem encodes_iff :
    (∃ body, r.encode = .ok body) ↔ r.locator.length ≤ 255 ∧ r.payload.length ≤ maxU32 := by
  simp only [encode_ok_iff, exists_and_left, exists_eq', and_true]

/-- A first request takes its fields, the locator and the part of the body that it carries. -/
theorem length_encode (h : r.encode = .ok body) :
    body.length = fixedSize + r.locator.length + r.payload.length := by
  obtain ⟨-, rfl⟩ := encode_ok_iff.mp h
  simp only [List.length_append, Bytes.length_ofU32, Bytes.length_ofU16, List.length_cons,
    List.length_nil, fixedSize]

/-- What a device finds in the body of a request. -/
def read : Reader OperationInitRequest := do
  let resourceId ← Reader.u32
  let operationId ← Reader.u16
  let operation ← Reader.ofExcept (OperationType.ofCode (← Reader.u8))
  let flags ← Reader.u8
  let sendHandle ← Reader.u32
  let locatorLength ← Reader.u8
  let payloadLength ← Reader.u32
  let locator ← Reader.take locatorLength.toNat
  let payload ← Reader.take payloadLength.toNat
  return { resourceId, operationId, operation, flags := ⟨flags⟩, sendHandle, locator, payload }

/-- Both lengths come before what the first of them counts. -/
theorem consumes (hencode : r.encode = .ok body) : Consumes read r body := by
  obtain ⟨⟨hlocator, hpayload⟩, rfl⟩ := encode_ok_iff.mp hencode
  have hoperation : Consumes (Reader.ofExcept (OperationType.ofCode r.operation.code))
      r.operation [] :=
    Reader.consumes_nothing fun _ =>
      Reader.ofExcept_eq_ok_iff.mpr ⟨OperationType.ofCode_code r.operation, rfl⟩
  have hlocatorLength : (UInt8.ofNat r.locator.length).toNat = r.locator.length :=
    UInt8.toNat_ofNat_of_lt' (Nat.lt_succ_of_le hlocator)
  have hpayloadLength : (UInt32.ofNat r.payload.length).toNat = r.payload.length :=
    UInt32.toNat_ofNat_of_lt' (Nat.lt_succ_of_le hpayload)
  simp only [List.append_assoc]
  refine (Reader.consumes_u32 _).bind <| (Reader.consumes_u16 _).bind <|
    (Reader.consumes_u8 _).bind <| hoperation.bind <| (Reader.consumes_u8 _).bind <|
    (Reader.consumes_u32 _).bind <| (Reader.consumes_u8 _).bind <| (Reader.consumes_u32 _).bind ?_
  rw [hlocatorLength, hpayloadLength]
  exact (Reader.consumes_take r.locator).bind ((Reader.consumes_take r.payload).map _)

/-- How a request stands in its body: twelve bytes, the lengths of locator and payload, and then these
    two and nothing else. -/
structure FramedIn (r : OperationInitRequest) (body : Bytes) : Prop where
  size : body.length = 17 + r.locator.length + r.payload.length
  lengths : ∃ fields locatorLength payloadLength,
    body = fields ++ locatorLength :: (Bytes.ofU32 payloadLength ++ (r.locator ++ r.payload)) ∧
      fields.length = 12 ∧ locatorLength.toNat = r.locator.length ∧
      payloadLength.toNat = r.payload.length

theorem framedIn (hencode : r.encode = .ok body) : r.FramedIn body where
  size := length_encode hencode
  lengths := by
    obtain ⟨⟨hlocator, hpayload⟩, rfl⟩ := encode_ok_iff.mp hencode
    refine ⟨Bytes.ofU32 r.resourceId ++ Bytes.ofU16 r.operationId
      ++ [r.operation.code, r.flags.bits] ++ Bytes.ofU32 r.sendHandle, .ofNat r.locator.length,
      .ofNat r.payload.length, ?_, rfl, ?_, ?_⟩
    · simp only [List.append_assoc, List.cons_append, List.nil_append]
    · exact UInt8.toNat_ofNat_of_lt' (Nat.lt_succ_of_le hlocator)
    · exact UInt32.toNat_ofNat_of_lt' (Nat.lt_succ_of_le hpayload)

end OperationInitRequest

/-! ## A chunk to a device -/

namespace MultipartSendRequest

variable {r : MultipartSendRequest} {body : Bytes}

theorem length_trailerBytes (checksum : Option UInt32) :
    (trailerBytes checksum).length = if checksum.isSome then checksumSize else 0 := by
  cases checksum with
  | none => rfl
  | some crc => rfl

/-- A chunk is written when its check is in its place and the length does not become too great. -/
theorem encode_ok_iff : r.encode = .ok body ↔
    (r.checksum.isSome = r.flag.isEnd ∧
      r.data.length + (trailerBytes r.checksum).length ≤ maxU32) ∧
      Bytes.ofU32 r.handle ++ Bytes.ofU16 r.operationId ++ [r.flag.code] ++ Bytes.ofU32 r.nextHandle
        ++ Bytes.ofU32 (.ofNat (r.data.length + (trailerBytes r.checksum).length))
        ++ r.data ++ trailerBytes r.checksum = body := by
  unfold encode
  rw [bind_eq_ok_iff]
  constructor
  · rintro ⟨trailer, htrailer, hbody⟩
    obtain ⟨hplace, rfl⟩ := TransferFlag.trailer_ok_iff.mp htrailer
    dsimp only at hbody
    split at hbody
    · cases hbody
    · rename_i hsize
      exact ⟨⟨hplace, Nat.not_lt.mp hsize⟩, Except.ok.inj hbody⟩
  · rintro ⟨⟨hplace, hsize⟩, rfl⟩
    refine ⟨r.checksum, TransferFlag.trailer_ok_iff.mpr ⟨hplace, rfl⟩, ?_⟩
    dsimp only
    rw [if_neg (Nat.not_lt.mpr hsize)]
    rfl

theorem encodes_iff : (∃ body, r.encode = .ok body) ↔ r.checksum.isSome = r.flag.isEnd ∧
    r.data.length + (trailerBytes r.checksum).length ≤ maxU32 := by
  simp only [encode_ok_iff, exists_and_left, exists_eq', and_true]

/-- A chunk is not refused for its length when there would be room for a check. -/
theorem encode_ok (hplace : r.checksum.isSome = r.flag.isEnd)
    (hsize : r.data.length + checksumSize ≤ maxU32) : ∃ body, r.encode = .ok body := by
  refine encodes_iff.mpr ⟨hplace, ?_⟩
  rw [length_trailerBytes]
  split
  · exact hsize
  · omega

/-- A chunk takes what stands in front of its data, the data, and the check if there is one. -/
theorem length_encode (h : r.encode = .ok body) :
    body.length = fixedSize + r.data.length + if r.checksum.isSome then checksumSize else 0 := by
  obtain ⟨-, rfl⟩ := encode_ok_iff.mp h
  simp only [List.length_append, Bytes.length_ofU32, Bytes.length_ofU16, List.length_cons,
    List.length_nil, fixedSize, length_trailerBytes]

/-- What a device finds in the body of a chunk: on the last one, the check is the end of what is
    counted. -/
def read : Reader MultipartSendRequest := do
  let handle ← Reader.u32
  let operationId ← Reader.u16
  let flag ← Reader.ofExcept (TransferFlag.ofCode (← Reader.u8))
  let nextHandle ← Reader.u32
  let size ← Reader.u32
  if flag.isEnd then
    let data ← Reader.take (size.toNat - checksumSize)
    let check ← Reader.u32
    return { handle, operationId, flag, nextHandle, data, checksum := some check }
  else
    let data ← Reader.take size.toNat
    return { handle, operationId, flag, nextHandle, data, checksum := none }

theorem consumes (hencode : r.encode = .ok body) : Consumes read r body := by
  obtain ⟨⟨hplace, hsize⟩, rfl⟩ := encode_ok_iff.mp hencode
  have hflag : Consumes (Reader.ofExcept (TransferFlag.ofCode r.flag.code)) r.flag [] :=
    Reader.consumes_nothing fun _ =>
      Reader.ofExcept_eq_ok_iff.mpr ⟨TransferFlag.ofCode_code r.flag, rfl⟩
  simp only [List.append_assoc]
  refine (Reader.consumes_u32 _).bind <| (Reader.consumes_u16 _).bind <|
    (Reader.consumes_u8 _).bind <| hflag.bind <| (Reader.consumes_u32 _).bind <|
    (Reader.consumes_u32 _).bind ?_
  rw [UInt32.toNat_ofNat_of_lt' (Nat.lt_succ_of_le hsize), ← hplace]
  obtain ⟨handle, operationId, flag, next, data, checksum⟩ := r
  dsimp only
  cases checksum with
  | none =>
    rw [if_neg (by decide)]
    show Consumes (Reader.take data.length >>= _) _ (data ++ [])
    rw [List.append_nil]
    exact (Reader.consumes_take data).map _
  | some check =>
    have hdata : data.length + (trailerBytes (some check)).length - checksumSize = data.length := by
      show data.length + checksumSize - checksumSize = data.length
      omega
    rw [if_pos Option.isSome_some, hdata]
    exact (Reader.consumes_take data).bind ((Reader.consumes_u32 check).map _)

/-- How a chunk stands in its body: eleven bytes, a length, and what this length counts, which is the
    data and the check. -/
structure FramedIn (r : MultipartSendRequest) (body : Bytes) : Prop where
  size : body.length = 15 + r.data.length + if r.checksum.isSome then 4 else 0
  length : ∃ fields counted,
    body = fields ++ (Bytes.ofU32 counted ++ (r.data ++ trailerBytes r.checksum)) ∧
      fields.length = 11 ∧ counted.toNat = (r.data ++ trailerBytes r.checksum).length

theorem framedIn (hencode : r.encode = .ok body) : r.FramedIn body where
  size := length_encode hencode
  length := by
    obtain ⟨⟨-, hsize⟩, rfl⟩ := encode_ok_iff.mp hencode
    refine ⟨Bytes.ofU32 r.handle ++ Bytes.ofU16 r.operationId ++ [r.flag.code]
      ++ Bytes.ofU32 r.nextHandle,
      .ofNat (r.data.length + (trailerBytes r.checksum).length), ?_, rfl, ?_⟩
    · simp only [List.append_assoc]
    · rw [List.length_append]
      exact UInt32.toNat_ofNat_of_lt' (Nat.lt_succ_of_le hsize)

end MultipartSendRequest

/-! ## Both of them -/

/-- A request can be told from its body.  It is written exactly when what it carries is not too long to
be counted and, in a chunk, the check is in its place; no two requests of a kind have the same body; and
a body consists of fixed fields, the lengths of what follows, and what follows, in full. -/
theorem requests_unambiguous (r r' : OperationInitRequest) (c c' : MultipartSendRequest) :
    (∀ body, r.encode = .ok body → r'.encode = .ok body → r = r') ∧
    (∀ body, c.encode = .ok body → c'.encode = .ok body → c = c') ∧
    ((∃ body, r.encode = .ok body) ↔ r.locator.length ≤ 255 ∧ r.payload.length ≤ maxU32) ∧
    ((∃ body, c.encode = .ok body) ↔ c.checksum.isSome = c.flag.isEnd ∧
      c.data.length + (trailerBytes c.checksum).length ≤ maxU32) ∧
    (∀ body, r.encode = .ok body → r.FramedIn body) ∧
    ∀ body, c.encode = .ok body → c.FramedIn body := by
  refine ⟨?_, ?_, OperationInitRequest.encodes_iff, MultipartSendRequest.encodes_iff, ?_, ?_⟩
  · intro body h h'
    exact (OperationInitRequest.consumes h).unique (OperationInitRequest.consumes h')
  · intro body h h'
    exact (MultipartSendRequest.consumes h).unique (MultipartSendRequest.consumes h')
  · intro body h
    exact OperationInitRequest.framedIn h
  · intro body h
    exact MultipartSendRequest.framedIn h

/-- The start of an update with a locator of two bytes and a payload of three. -/
def locatedUpdate : OperationInitRequest :=
  { resourceId := 0x01020304, operationId := 0x0506, operation := .update, flags := ⟨3⟩,
    sendHandle := 0, locator := [1, 2], payload := [2, 1, 0] }

/-- The bytes of `locatedUpdate`. -/
def locatedBytes : Bytes :=
  [4, 3, 2, 1, 6, 5, 4, 3, 0, 0, 0, 0, 2, 3, 0, 0, 0, 1, 2, 2, 1, 0]

/-- The last chunk of a body, whose data look like a check. -/
def finalChunk : MultipartSendRequest :=
  { handle := 7, operationId := 1, flag := .finish, nextHandle := 0, data := [0x44, 0x33, 0x22, 0x11],
    checksum := some 0x11223344 }

/-- The bytes of `finalChunk`. -/
def finalBytes : Bytes :=
  [7, 0, 0, 0, 1, 0, 2, 0, 0, 0, 0, 8, 0, 0, 0, 0x44, 0x33, 0x22, 0x11, 0x44, 0x33, 0x22, 0x11]

/-- The request with the same bytes behind the lengths, the locator a byte shorter. -/
def shiftedUpdate : OperationInitRequest :=
  { locatedUpdate with locator := [1], payload := [2, 2, 1, 0] }

/-- The chunk that carries the check of `finalChunk` as data. -/
def middleChunk : MultipartSendRequest :=
  { finalChunk with flag := .middle, data := finalChunk.data ++ finalChunk.data, checksum := none }

/-- Where the locator ends, and whether the last four bytes are a check, makes another body. -/
theorem requests_unambiguous_apart :
    locatedUpdate.encode = .ok locatedBytes ∧ shiftedUpdate.encode ≠ .ok locatedBytes ∧
      finalChunk.encode = .ok finalBytes ∧ middleChunk.encode ≠ .ok finalBytes ∧
      locatedUpdate.FramedIn locatedBytes ∧ finalChunk.FramedIn finalBytes := by
  have hupdate : locatedUpdate.encode = .ok locatedBytes := rfl
  have hchunk : finalChunk.encode = .ok finalBytes := rfl
  obtain ⟨hinit, hsend, -, -, hinitFramed, hsendFramed⟩ :=
    requests_unambiguous locatedUpdate shiftedUpdate finalChunk middleChunk
  refine ⟨hupdate, ?_, hchunk, ?_, hinitFramed _ hupdate, hsendFramed _ hchunk⟩
  · intro hother
    exact absurd (hinit _ hupdate hother) (by decide)
  · intro hother
    exact absurd (hsend _ hchunk hother) (by decide)

end DeviceEnablement
