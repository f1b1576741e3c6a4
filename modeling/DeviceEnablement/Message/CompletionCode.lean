/-
  Completion codes: the first byte of every response.

  The base codes of the transport layer, the codes of the device enablement command set, and every
  other byte as `unknown`.  `ofByte` and `toByte` are inverse to each other on codes that `ofByte`
  gives (`toByte_ofByte`).
-/
import DeviceEnablement.Text.Hexadecimal

namespace DeviceEnablement

/-- What a device says about the request it answers. -/
inductive CompletionCode
  | success
  | error
  | errorInvalidData
  | errorInvalidLength
  | errorNotReady
  | errorUnsupportedPldmCmd
  | errorInvalidPldmType
  | badChecksum
  | cannotCreateOperation
  | notAllowed
  | wrongLocationType
  | operationAbandoned
  | operationUnkillable
  | operationExists
  | operationFailed
  | unexpected
  | unsupported
  | unrecognizedCustomHeader
  | etagMatch
  | noSuchResource
  | etagCalculationOngoing
  | unknown (byte : UInt8)
  deriving DecidableEq

namespace CompletionCode

/-- The code carried by a byte. -/
def ofByte (byte : UInt8) : CompletionCode :=
  match byte with
  | 0x00 => success
  | 0x01 => error
  | 0x02 => errorInvalidData
  | 0x03 => errorInvalidLength
  | 0x04 => errorNotReady
  | 0x05 => errorUnsupportedPldmCmd
  | 0x20 => errorInvalidPldmType
  | 0x80 => badChecksum
  | 0x81 => cannotCreateOperation
  | 0x82 => notAllowed
  | 0x83 => wrongLocationType
  | 0x84 => operationAbandoned
  | 0x85 => operationUnkillable
  | 0x86 => operationExists
  | 0x87 => operationFailed
  | 0x88 => unexpected
  | 0x89 => unsupported
  | 0x90 => unrecognizedCustomHeader
  | 0x91 => etagMatch
  | 0x92 => noSuchResource
  | 0x93 => etagCalculationOngoing
  | other => unknown other

/-- The byte that carries a code. -/
def toByte : CompletionCode → UInt8
  | success => 0x00
  | error => 0x01
  | errorInvalidData => 0x02
  | errorInvalidLength => 0x03
  | errorNotReady => 0x04
  | errorUnsupportedPldmCmd => 0x05
  | errorInvalidPldmType => 0x20
  | badChecksum => 0x80
  | cannotCreateOperation => 0x81
  | notAllowed => 0x82
  | wrongLocationType => 0x83
  | operationAbandoned => 0x84
  | operationUnkillable => 0x85
  | operationExists => 0x86
  | operationFailed => 0x87
  | unexpected => 0x88
  | unsupported => 0x89
  | unrecognizedCustomHeader => 0x90
  | etagMatch => 0x91
  | noSuchResource => 0x92
  | etagCalculationOngoing => 0x93
  | unknown byte => byte

/-- Every byte is the byte of its code. -/
theorem toByte_ofByte (byte : UInt8) : (ofByte byte).toByte = byte := by
  unfold ofByte
  split <;> rfl

/-- The codes that have a name of their own. -/
def named : List CompletionCode :=
  [success, error, errorInvalidData, errorInvalidLength, errorNotReady, errorUnsupportedPldmCmd,
   errorInvalidPldmType, badChecksum, cannotCreateOperation, notAllowed, wrongLocationType,
   operationAbandoned, operationUnkillable, operationExists, operationFailed, unexpected,
   unsupported, unrecognizedCustomHeader, etagMatch, noSuchResource, etagCalculationOngoing]

/-- The name of a code; an unknown byte is shown in hexadecimal. -/
def name : CompletionCode → String
  | success => "SUCCESS"
  | error => "ERROR"
  | errorInvalidData => "ERROR_INVALID_DATA"
  | errorInvalidLength => "ERROR_INVALID_LENGTH"
  | errorNotReady => "ERROR_NOT_READY"
  | errorUnsupportedPldmCmd => "ERROR_UNSUPPORTED_PLDM_CMD"
  | errorInvalidPldmType => "ERROR_INVALID_PLDM_TYPE"
  | badChecksum => "BAD_CHECKSUM"
  | cannotCreateOperation => "CANNOT_CREATE_OPERATION"
  | notAllowed => "NOT_ALLOWED"
  | wrongLocationType => "WRONG_LOCATION_TYPE"
  | operationAbandoned => "OPERATION_ABANDONED"
  | operationUnkillable => "OPERATION_UNKILLABLE"
  | operationExists => "OPERATION_EXISTS"
  | operationFailed => "OPERATION_FAILED"
  | unexpected => "UNEXPECTED"
  | unsupported => "UNSUPPORTED"
  | unrecognizedCustomHeader => "UNRECOGNIZED_CUSTOM_HEADER"
  | etagMatch => "ETAG_MATCH"
  | noSuchResource => "NO_SUCH_RESOURCE"
  | etagCalculationOngoing => "ETAG_CALCULATION_ONGOING"
  | unknown byte => "UNKNOWN(" ++ Hexadecimal.byte byte ++ ")"

/-- What a code means, for a reader. -/
def description : CompletionCode → String
  | success => "success"
  | error => "generic failure"
  | errorInvalidData => "request data was invalid"
  | errorInvalidLength => "request length was invalid"
  | errorNotReady => "device is not ready"
  | errorUnsupportedPldmCmd => "command is not supported"
  | errorInvalidPldmType => "PLDM type is not supported"
  | badChecksum => "the payload checksum is incorrect"
  | cannotCreateOperation => "unable to create operation"
  | notAllowed => "operation not permitted"
  | wrongLocationType => "invalid location type specified"
  | operationAbandoned => "operation was aborted unexpectedly"
  | operationUnkillable => "cannot forcibly cancel operation"
  | operationExists => "duplicate operation detected"
  | operationFailed => "operation execution failed"
  | unexpected => "internal or unknown error occurred"
  | unsupported => "command or resource not supported"
  | unrecognizedCustomHeader => "header format not recognized"
  | etagMatch => "ETag comparison mismatch"
  | noSuchResource => "referenced resource was not found"
  | etagCalculationOngoing => "ETag generation in progress"
  | unknown _ => "unknown completion code"

/-- Whether the request was carried out. -/
def isSuccess (code : CompletionCode) : Bool := code = success

/-- Whether the device may accept the same request later. -/
def isRetryable (code : CompletionCode) : Bool :=
  code = errorNotReady ∨ code = etagCalculationOngoing

end CompletionCode

end DeviceEnablement
