/-
  What can be wrong with a message.

  One constructor for each cause met while a message, a record or one of their fields is written
  or read; `MessageError.message` holds the wording.
-/
import DeviceEnablement.Message.CompletionCode

namespace DeviceEnablement

/-- Why a message cannot be written or read. -/
inductive MessageError
  /-- Fewer bytes are left than the next field needs. -/
  | truncated (needed remaining : Nat)
  /-- A response was expected. -/
  | notAResponse
  /-- The message belongs to another command set. -/
  | unexpectedType (pldmType : UInt8)
  /-- The response answers another command. -/
  | unexpectedCommand (expected actual : UInt8)
  /-- The response answers another request. -/
  | instanceMismatch (expected actual : UInt8)
  /-- The instance id does not fit in the header. -/
  | invalidInstanceId (id : UInt8)
  /-- No command has this code. -/
  | unknownCommand (code : UInt8)
  /-- No transfer flag has this code. -/
  | invalidTransferFlag (code : UInt8)
  /-- No transfer operation has this code. -/
  | invalidTransferOperation (code : UInt8)
  /-- No operation type has this code. -/
  | invalidOperationType (code : UInt8)
  /-- A length or a count cannot be written in its field, or contradicts the message. -/
  | invalidLength (field : String) (value : Nat)
  /-- The last chunk of a transfer carries no checksum. -/
  | missingChecksum
  /-- A chunk that is not the last one carries a checksum. -/
  | unexpectedChecksum
  /-- More data than is allowed. -/
  | payloadTooLarge (size max : Nat)
  /-- The bytes of a text are not UTF-8. -/
  | invalidUtf8 (place : String)
  /-- A text holds a NUL. -/
  | embeddedNul (place : String)
  /-- The device refused the request. -/
  | completion (code : CompletionCode)
  deriving DecidableEq

namespace MessageError

/-- The wording of an error. -/
def message : MessageError → String
  | truncated needed remaining =>
    s!"truncated message: need {needed} bytes, {remaining} remaining"
  | notAResponse => "expected a response message, got a request"
  | unexpectedType pldmType => "unexpected PLDM type: " ++ Hexadecimal.byte pldmType
  | unexpectedCommand expected actual =>
    "unexpected command: expected " ++ Hexadecimal.byte expected ++ ", got "
      ++ Hexadecimal.byte actual
  | instanceMismatch expected actual =>
    s!"instance id mismatch: expected {expected}, got {actual}"
  | invalidInstanceId id => s!"instance id out of range: {id}"
  | unknownCommand code => "unknown RDE command: " ++ Hexadecimal.byte code
  | invalidTransferFlag code => s!"invalid transfer flag: {code}"
  | invalidTransferOperation code => s!"invalid transfer operation: {code}"
  | invalidOperationType code => s!"invalid operation type: {code}"
  | invalidLength field value => s!"invalid length for {field}: {value}"
  | missingChecksum => "last multipart chunk requires an integrity checksum"
  | unexpectedChecksum => "integrity checksum is only allowed on the last multipart chunk"
  | payloadTooLarge size max => s!"payload too large: {size} bytes (max {max})"
  | invalidUtf8 place => s!"invalid UTF-8 in {place}"
  | embeddedNul place => s!"embedded NUL in {place}"
  | completion code => s!"device returned completion code {code.name}"

/-- The completion code, when the device gave one. -/
def completionCode? : MessageError → Option CompletionCode
  | completion code => some code
  | _ => none

end MessageError

end DeviceEnablement
