/-
  The bodies of requests.

  One structure for each command that is sent, with the body it is written as.  Lengths that do not
  fit in their field, and a checksum that is missing or out of place, are refused.
-/
import DeviceEnablement.Message.Operation
import DeviceEnablement.Message.Transfer
import DeviceEnablement.Message.Command

namespace DeviceEnablement

/-- The size of the checksum behind the last chunk of a transfer. -/
def checksumSize : Nat := 4

/-- The greatest number that fits in a four-byte field. -/
def maxU32 : Nat := 4294967295

/-- The checksum to write behind a chunk: one on the last chunk, none on any other. -/
def TransferFlag.trailer (flag : TransferFlag) (checksum : Option UInt32) :
    Except MessageError (Option UInt32) :=
  match flag.isEnd, checksum with
  | true, some crc => .ok (some crc)
  | false, none => .ok none
  | true, none => .error .missingChecksum
  | false, some _ => .error .unexpectedChecksum

/-- The written form of a trailer. -/
def trailerBytes : Option UInt32 → Bytes
  | some crc => Bytes.ofU32 crc
  | none => []

/-! ## Negotiation -/

/-- Offers the concurrency and the features of the controller. -/
structure NegotiateRedfishRequest where
  concurrency : UInt8
  features : Features
  deriving DecidableEq

/-- The body of the request. -/
def NegotiateRedfishRequest.encode (r : NegotiateRedfishRequest) : Bytes :=
  r.concurrency :: Bytes.ofU16 r.features.bits

/-- Offers the largest chunk that the controller accepts. -/
structure NegotiateMediumRequest where
  maxChunk : UInt32
  deriving DecidableEq

/-- The body of the request. -/
def NegotiateMediumRequest.encode (r : NegotiateMediumRequest) : Bytes := Bytes.ofU32 r.maxChunk

/-! ## Dictionaries -/

/-- Asks for the schema dictionary of a resource. -/
structure GetSchemaDictionaryRequest where
  resourceId : UInt32
  schemaClass : UInt8
  deriving DecidableEq

/-- The body of the request. -/
def GetSchemaDictionaryRequest.encode (r : GetSchemaDictionaryRequest) : Bytes :=
  Bytes.ofU32 r.resourceId ++ [r.schemaClass]

/-! ## Operations -/

/-- Begins an operation. -/
structure OperationInitRequest where
  resourceId : UInt32
  operationId : UInt16
  operation : OperationType
  flags : OperationFlags
  /-- The handle under which the rest of the body will be sent; 0 when all of it is here. -/
  sendHandle : UInt32
  locator : Bytes
  payload : Bytes
  deriving DecidableEq

namespace OperationInitRequest

/-- The size of the fields in front of locator and payload. -/
def fixedSize : Nat := 17

/-- The body of the request. -/
def encode (r : OperationInitRequest) : Except MessageError Bytes :=
  if r.locator.length > 255 then .error (.invalidLength "operation_locator" r.locator.length)
  else if r.payload.length > maxU32 then .error (.payloadTooLarge r.payload.length maxU32)
  else .ok (Bytes.ofU32 r.resourceId ++ Bytes.ofU16 r.operationId
    ++ [r.operation.code, r.flags.bits] ++ Bytes.ofU32 r.sendHandle
    ++ [.ofNat r.locator.length] ++ Bytes.ofU32 (.ofNat r.payload.length)
    ++ r.locator ++ r.payload)

end OperationInitRequest

/-- Ends an operation. -/
structure OperationCompleteRequest where
  resourceId : UInt32
  operationId : UInt16
  deriving DecidableEq

/-- The body of the request. -/
def OperationCompleteRequest.encode (r : OperationCompleteRequest) : Bytes :=
  Bytes.ofU32 r.resourceId ++ Bytes.ofU16 r.operationId

/-! ## Transfers -/

/-- Sends one chunk to the device. -/
structure MultipartSendRequest where
  handle : UInt32
  operationId : UInt16
  flag : TransferFlag
  /-- The handle of the next chunk; 0 on the last one. -/
  nextHandle : UInt32
  data : Bytes
  /-- The check over the whole payload, on the last chunk only. -/
  checksum : Option UInt32
  deriving DecidableEq

namespace MultipartSendRequest

/-- The size of the fields in front of the data. -/
def fixedSize : Nat := 15

/-- The body of the request.  The written length counts the checksum. -/
def encode (r : MultipartSendRequest) : Except MessageError Bytes := do
  let trailer := trailerBytes (← r.flag.trailer r.checksum)
  let length := r.data.length + trailer.length
  if length > maxU32 then throw (.payloadTooLarge length maxU32)
  return Bytes.ofU32 r.handle ++ Bytes.ofU16 r.operationId ++ [r.flag.code]
    ++ Bytes.ofU32 r.nextHandle ++ Bytes.ofU32 (.ofNat length) ++ r.data ++ trailer

end MultipartSendRequest

/-- Asks for one chunk from the device. -/
structure MultipartReceiveRequest where
  handle : UInt32
  operationId : UInt16
  operation : TransferOperation
  deriving DecidableEq

/-- The body of the request. -/
def MultipartReceiveRequest.encode (r : MultipartReceiveRequest) : Bytes :=
  Bytes.ofU32 r.handle ++ Bytes.ofU16 r.operationId ++ [r.operation.code]

end DeviceEnablement
