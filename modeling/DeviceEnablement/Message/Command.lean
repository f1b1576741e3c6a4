/-
  The commands of the device enablement command set, with their codes and names.
-/
import DeviceEnablement.Message.Error

namespace DeviceEnablement

/-- What a request asks of a device. -/
inductive Command
  | negotiateRedfishParameters
  | negotiateMediumParameters
  | getSchemaDictionary
  | getSchemaUri
  | getResourceEtag
  | operationInit
  | supplyCustomRequestParameters
  | retrieveCustomResponseParameters
  | operationComplete
  | operationStatus
  | operationKill
  | operationEnumerate
  | multipartSend
  | multipartReceive
  deriving DecidableEq

namespace Command

/-- Every command, in the order of the codes. -/
def all : List Command :=
  [negotiateRedfishParameters, negotiateMediumParameters, getSchemaDictionary, getSchemaUri,
   getResourceEtag, operationInit, supplyCustomRequestParameters,
   retrieveCustomResponseParameters, operationComplete, operationStatus, operationKill,
   operationEnumerate, multipartSend, multipartReceive]

/-- The code of a command in the message header. -/
def code : Command → UInt8
  | negotiateRedfishParameters => 0x01
  | negotiateMediumParameters => 0x02
  | getSchemaDictionary => 0x03
  | getSchemaUri => 0x04
  | getResourceEtag => 0x05
  | operationInit => 0x10
  | supplyCustomRequestParameters => 0x11
  | retrieveCustomResponseParameters => 0x12
  | operationComplete => 0x13
  | operationStatus => 0x14
  | operationKill => 0x15
  | operationEnumerate => 0x16
  | multipartSend => 0x30
  | multipartReceive => 0x31

/-- The name of a command. -/
def name : Command → String
  | negotiateRedfishParameters => "NegotiateRedfishParameters"
  | negotiateMediumParameters => "NegotiateMediumParameters"
  | getSchemaDictionary => "GetSchemaDictionary"
  | getSchemaUri => "GetSchemaUri"
  | getResourceEtag => "GetResourceEtag"
  | operationInit => "OperationInit"
  | supplyCustomRequestParameters => "SupplyCustomRequestParameters"
  | retrieveCustomResponseParameters => "RetrieveCustomResponseParameters"
  | operationComplete => "OperationComplete"
  | operationStatus => "OperationStatus"
  | operationKill => "OperationKill"
  | operationEnumerate => "OperationEnumerate"
  | multipartSend => "MultipartSend"
  | multipartReceive => "MultipartReceive"

/-- The command with this code. -/
def ofCode (code : UInt8) : Except MessageError Command :=
  match all.find? (fun command => command.code = code) with
  | some command => .ok command
  | none => .error (.unknownCommand code)

/-- A command is found again by its code. -/
theorem ofCode_code (command : Command) : ofCode command.code = .ok command := by
  cases command <;> rfl

end Command

end DeviceEnablement
