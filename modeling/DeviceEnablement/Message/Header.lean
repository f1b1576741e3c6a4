/-
  The three-byte message header.

  The first byte holds the direction in its two top bits and the instance id in its five low bits;
  the second holds the message type in six bits; the third is the command code.

  1. `Header.encode` refuses an instance id above 31 and drops the two top bits of the type.
  2. `request` puts a body behind a request header.
  3. `responseBody` checks a response against the request it answers, in the order direction, type,
     command, instance id, and hands back the body.
-/
import DeviceEnablement.Message.Command

namespace DeviceEnablement

/-- The direction of a message. -/
inductive Direction
  | request
  | response
  /-- A request that asks for no answer. -/
  | datagram
  deriving DecidableEq

namespace Direction

/-- The name of a direction. -/
def name : Direction → String
  | request => "Request"
  | response => "Response"
  | datagram => "Datagram"

/-- The two top bits of the first header byte. -/
def bits : Direction → UInt8
  | request => 0x80
  | response => 0
  | datagram => 0xC0

/-- The direction given by the first header byte.  Without the request bit it is a response. -/
def ofByte (byte : UInt8) : Direction :=
  if byte &&& 0x80 = 0 then response
  else if byte &&& 0x40 = 0 then request
  else datagram

end Direction

/-- A message header. -/
structure Header where
  direction : Direction
  instanceId : UInt8
  pldmType : UInt8
  command : UInt8
  deriving DecidableEq

namespace Header

/-- The number of bytes of a header. -/
def size : Nat := 3

/-- The largest instance id that fits in a header. -/
def maxInstanceId : UInt8 := 0x1F

/-- The message type of the device enablement command set. -/
def rdeType : UInt8 := 0x06

/-- The three bytes of a header. -/
def encode (header : Header) : Except MessageError Bytes :=
  if header.instanceId > maxInstanceId then .error (.invalidInstanceId header.instanceId)
  else .ok [header.direction.bits ||| header.instanceId, header.pldmType &&& 0x3F, header.command]

/-- The header at the front of a message. -/
def decode : Bytes → Except MessageError Header
  | first :: second :: third :: _ =>
    .ok { direction := .ofByte first
          instanceId := first &&& maxInstanceId
          pldmType := second &&& 0x3F
          command := third }
  | message => .error (.truncated size message.length)

end Header

/-- The whole request: a header for `command`, then `body`. -/
def encodeRequest (instanceId : UInt8) (command : Command) (body : Bytes) :
    Except MessageError Bytes := do
  let header : Header :=
    { direction := .request, instanceId, pldmType := Header.rdeType, command := command.code }
  return (← header.encode) ++ body

/-- The body of a response to the request for `command` with `instanceId`; it begins with the
    completion code. -/
def responseBody (message : Bytes) (instanceId : UInt8) (command : Command) :
    Except MessageError Bytes := do
  let header ← Header.decode message
  if header.direction ≠ .response then throw .notAResponse
  if header.pldmType ≠ Header.rdeType then throw (.unexpectedType header.pldmType)
  if header.command ≠ command.code then
    throw (.unexpectedCommand command.code header.command)
  if header.instanceId ≠ instanceId then
    throw (.instanceMismatch instanceId header.instanceId)
  return message.drop Header.size

end DeviceEnablement
