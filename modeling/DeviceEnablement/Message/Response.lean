/-
  The bodies of responses.

  A body begins with the completion code; anything but success ends the reading there
  (`afterSuccess`).  Three responses also have a written form, which a device would send; reading
  undoes it.
-/
import DeviceEnablement.Message.Request
import DeviceEnablement.Wire.VarString

namespace DeviceEnablement

/-- Reads the completion code and, if it is success, the fields behind it. -/
def Reader.afterSuccess {α : Type} (fields : Reader α) : Reader α := do
  let code := CompletionCode.ofByte (← Reader.u8)
  if code.isSuccess then fields else Reader.fail (.completion code)

/-! ## Negotiation -/

/-- What a device offers. -/
structure NegotiateRedfishResponse where
  concurrency : UInt8
  capabilities : Capabilities
  features : Features
  signature : UInt32
  provider : VarString
  deriving DecidableEq

namespace NegotiateRedfishResponse

/-- The fields behind the completion code. -/
def fields : Reader NegotiateRedfishResponse := do
  let concurrency ← Reader.u8
  let capabilities ← Reader.u8
  let features ← Reader.u16
  let signature ← Reader.u32
  let provider ← VarString.read
  return { concurrency, capabilities := ⟨capabilities⟩, features := ⟨features⟩, signature,
           provider }

/-- The response in a body. -/
def decode (body : Bytes) : Except MessageError NegotiateRedfishResponse :=
  (Reader.afterSuccess fields).run body

/-- The body of a successful response. -/
def encode (r : NegotiateRedfishResponse) : Except MessageError Bytes := do
  let provider ← r.provider.encode
  return [CompletionCode.success.toByte, r.concurrency, r.capabilities.bits]
    ++ Bytes.ofU16 r.features.bits ++ Bytes.ofU32 r.signature ++ provider

end NegotiateRedfishResponse

/-- The largest chunk that a device accepts. -/
structure NegotiateMediumResponse where
  maxChunk : UInt32
  deriving DecidableEq

namespace NegotiateMediumResponse

/-- The fields behind the completion code. -/
def fields : Reader NegotiateMediumResponse := do
  let maxChunk ← Reader.u32
  return { maxChunk }

/-- The response in a body. -/
def decode (body : Bytes) : Except MessageError NegotiateMediumResponse :=
  (Reader.afterSuccess fields).run body

end NegotiateMediumResponse

/-! ## Dictionaries -/

/-- Where a dictionary can be fetched. -/
structure GetSchemaDictionaryResponse where
  format : UInt8
  handle : UInt32
  deriving DecidableEq

namespace GetSchemaDictionaryResponse

/-- The fields behind the completion code. -/
def fields : Reader GetSchemaDictionaryResponse := do
  let format ← Reader.u8
  let handle ← Reader.u32
  return { format, handle }

/-- The response in a body. -/
def decode (body : Bytes) : Except MessageError GetSchemaDictionaryResponse :=
  (Reader.afterSuccess fields).run body

end GetSchemaDictionaryResponse

/-! ## Operations -/

/-- How an operation begins. -/
structure OperationInitResponse where
  status : OperationStatus
  percentage : UInt8
  seconds : UInt32
  flags : UInt8
  /-- The handle under which the result can be fetched; 0 when it is here. -/
  resultHandle : UInt32
  permissions : UInt8
  etag : VarString
  payload : Bytes
  deriving DecidableEq

namespace OperationInitResponse

/-- The fields behind the completion code.  The length of the payload stands before the etag, the
    payload behind it. -/
def fields : Reader OperationInitResponse := do
  let status ← Reader.u8
  let percentage ← Reader.u8
  let seconds ← Reader.u32
  let flags ← Reader.u8
  let resultHandle ← Reader.u32
  let permissions ← Reader.u8
  let length ← Reader.u32
  let etag ← VarString.read
  let payload ← Reader.take length.toNat
  return { status := .ofByte status, percentage, seconds, flags, resultHandle, permissions, etag,
           payload }

/-- The response in a body. -/
def decode (body : Bytes) : Except MessageError OperationInitResponse :=
  (Reader.afterSuccess fields).run body

/-- The body of a successful response. -/
def encode (r : OperationInitResponse) : Except MessageError Bytes := do
  let etag ← r.etag.encode
  return [CompletionCode.success.toByte, r.status.toByte, r.percentage] ++ Bytes.ofU32 r.seconds
    ++ [r.flags] ++ Bytes.ofU32 r.resultHandle ++ [r.permissions]
    ++ Bytes.ofU32 (.ofNat r.payload.length) ++ etag ++ r.payload

end OperationInitResponse

/-- That an operation has ended. -/
structure OperationCompleteResponse where
  deriving DecidableEq

namespace OperationCompleteResponse

/-- The response in a body. -/
def decode (body : Bytes) : Except MessageError OperationCompleteResponse :=
  (Reader.afterSuccess (pure {})).run body

end OperationCompleteResponse

/-! ## Transfers -/

/-- What a device says about a chunk it was sent. -/
structure MultipartSendResponse where
  operation : TransferOperation
  deriving DecidableEq

namespace MultipartSendResponse

/-- The fields behind the completion code. -/
def fields : Reader MultipartSendResponse := do
  let operation ← Reader.ofExcept (TransferOperation.ofCode (← Reader.u8))
  return { operation }

/-- The response in a body. -/
def decode (body : Bytes) : Except MessageError MultipartSendResponse :=
  (Reader.afterSuccess fields).run body

end MultipartSendResponse

/-- One chunk from a device. -/
structure MultipartReceiveResponse where
  flag : TransferFlag
  nextHandle : UInt32
  /-- The content of the chunk, without the checksum behind it. -/
  data : Bytes
  /-- The check over the whole payload, on the last chunk only. -/
  checksum : Option UInt32
  deriving DecidableEq

namespace MultipartReceiveResponse

/-- The fields behind the completion code.  On the last chunk the written length counts the
    checksum. -/
def fields : Reader MultipartReceiveResponse := do
  let flag ← Reader.ofExcept (TransferFlag.ofCode (← Reader.u8))
  let nextHandle ← Reader.u32
  let length := (← Reader.u32).toNat
  if flag.isEnd then
    if length < checksumSize then Reader.fail (.invalidLength "multipart data length" length)
    else
      let data ← Reader.take (length - checksumSize)
      let crc ← Reader.u32
      return { flag, nextHandle, data, checksum := some crc }
  else
    let data ← Reader.take length
    return { flag, nextHandle, data, checksum := none }

/-- The response in a body. -/
def decode (body : Bytes) : Except MessageError MultipartReceiveResponse :=
  (Reader.afterSuccess fields).run body

/-- The body of a successful response.  The written length counts the checksum. -/
def encode (r : MultipartReceiveResponse) : Except MessageError Bytes := do
  let trailer := trailerBytes (← r.flag.trailer r.checksum)
  return [CompletionCode.success.toByte, r.flag.code] ++ Bytes.ofU32 r.nextHandle
    ++ Bytes.ofU32 (.ofNat (r.data.length + trailer.length)) ++ r.data ++ trailer

end MultipartReceiveResponse

end DeviceEnablement
