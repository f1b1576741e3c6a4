/-
  Operations, their flags and status, and the feature and capability bits of a device.
-/
import DeviceEnablement.Message.Error

namespace DeviceEnablement

/-- A Redfish operation on one resource. -/
inductive OperationType
  | head
  | read
  | create
  | delete
  | update
  | replace
  | action
  deriving DecidableEq

namespace OperationType

/-- Every operation, in the order of the codes. -/
def all : List OperationType := [head, read, create, delete, update, replace, action]

/-- The code of an operation. -/
def code : OperationType → UInt8
  | head => 0
  | read => 1
  | create => 2
  | delete => 3
  | update => 4
  | replace => 5
  | action => 6

/-- The name of an operation. -/
def name : OperationType → String
  | head => "HEAD"
  | read => "READ"
  | create => "CREATE"
  | delete => "DELETE"
  | update => "UPDATE"
  | replace => "REPLACE"
  | action => "ACTION"

/-- The operation with this code. -/
def ofCode (code : UInt8) : Except MessageError OperationType :=
  match all.find? (fun operation => operation.code = code) with
  | some operation => .ok operation
  | none => .error (.invalidOperationType code)

/-- The operation with this name. -/
def ofName? (name : String) : Option OperationType :=
  all.find? (fun operation => operation.name = name)

/-- Whether the operation sends a request body to the device. -/
def carriesPayload : OperationType → Bool
  | create | update | replace | action => true
  | head | read | delete => false

end OperationType

/-! ## Operation flags -/

/-- The flags byte of an operation request. -/
structure OperationFlags where
  bits : UInt8
  deriving DecidableEq

namespace OperationFlags

def locatorValid : UInt8 := 1
def containsRequestPayload : UInt8 := 2
def containsCustomRequestParameters : UInt8 := 4
def excerptRead : UInt8 := 8

/-- Every flag, the lowest bit first. -/
def all : List UInt8 :=
  [locatorValid, containsRequestPayload, containsCustomRequestParameters, excerptRead]

/-- No flag is set. -/
def empty : OperationFlags := ⟨0⟩

/-- Sets the flag that a locator is present. -/
def withLocator (flags : OperationFlags) : OperationFlags := ⟨flags.bits ||| locatorValid⟩

/-- Sets the flag that a request body is present. -/
def withRequestPayload (flags : OperationFlags) : OperationFlags :=
  ⟨flags.bits ||| containsRequestPayload⟩

/-- Whether a request body is present. -/
def hasRequestPayload (flags : OperationFlags) : Bool :=
  flags.bits &&& containsRequestPayload ≠ 0

end OperationFlags

/-! ## Features and capabilities -/

/-- The features that one side supports, a bit each. -/
structure Features where
  bits : UInt16
  deriving DecidableEq

namespace Features

def head : UInt16 := 0x001
def read : UInt16 := 0x002
def create : UInt16 := 0x004
def delete : UInt16 := 0x008
def update : UInt16 := 0x010
def replace : UInt16 := 0x020
def action : UInt16 := 0x040
def events : UInt16 := 0x080
def bejV1_1 : UInt16 := 0x100

/-- Every feature, the lowest bit first. -/
def all : List UInt16 := [head, read, create, delete, update, replace, action, events, bejV1_1]

/-- Every feature bit that has a meaning. -/
def known : UInt16 := 0x1FF

/-- The bit of an operation. -/
def bit : OperationType → UInt16
  | .head => head
  | .read => read
  | .create => create
  | .delete => delete
  | .update => update
  | .replace => replace
  | .action => action

/-- Whether every bit of `mask` is set. -/
def contains (features : Features) (mask : UInt16) : Bool := features.bits &&& mask = mask

/-- Whether the bit of `operation` is set. -/
def supports (features : Features) (operation : OperationType) : Bool :=
  features.contains (bit operation)

/-- The operations whose bits are set, in the order of the codes. -/
def operations (features : Features) : List OperationType :=
  OperationType.all.filter features.supports

/-- The features that both sides support. -/
def inter (a b : Features) : Features := ⟨a.bits &&& b.bits⟩

end Features

/-- The capabilities of a device, a bit each. -/
structure Capabilities where
  bits : UInt8
  deriving DecidableEq

namespace Capabilities

def atomicResourceReadBit : UInt8 := 1
def expandSupportBit : UInt8 := 2
def bejV1_1Bit : UInt8 := 4

/-- Every capability, the lowest bit first. -/
def all : List UInt8 := [atomicResourceReadBit, expandSupportBit, bejV1_1Bit]

def atomicResourceRead (c : Capabilities) : Bool := c.bits &&& atomicResourceReadBit ≠ 0
def expandSupport (c : Capabilities) : Bool := c.bits &&& expandSupportBit ≠ 0
def bejV1_1 (c : Capabilities) : Bool := c.bits &&& bejV1_1Bit ≠ 0

end Capabilities

/-! ## Operation status -/

/-- How far a device has come with an operation. -/
inductive OperationStatus
  | inactive
  | needsInput
  | triggered
  | running
  | haveResults
  | completed
  | failed
  | abandoned
  | unknown (byte : UInt8)
  deriving DecidableEq

namespace OperationStatus

/-- The status carried by a byte. -/
def ofByte (byte : UInt8) : OperationStatus :=
  match byte with
  | 0 => inactive
  | 1 => needsInput
  | 2 => triggered
  | 3 => running
  | 4 => haveResults
  | 5 => completed
  | 6 => failed
  | 7 => abandoned
  | other => unknown other

/-- The byte that carries a status. -/
def toByte : OperationStatus → UInt8
  | inactive => 0
  | needsInput => 1
  | triggered => 2
  | running => 3
  | haveResults => 4
  | completed => 5
  | failed => 6
  | abandoned => 7
  | unknown byte => byte

/-- Every byte is the byte of its status. -/
theorem toByte_ofByte (byte : UInt8) : (ofByte byte).toByte = byte := by
  unfold ofByte
  split <;> rfl

/-- The name of a status. -/
def name : OperationStatus → String
  | inactive => "Inactive"
  | needsInput => "NeedsInput"
  | triggered => "Triggered"
  | running => "Running"
  | haveResults => "HaveResults"
  | completed => "Completed"
  | failed => "Failed"
  | abandoned => "Abandoned"
  | unknown byte => s!"Unknown({byte})"

/-- Whether the device has given the operation up. -/
def isFailure : OperationStatus → Bool
  | failed | abandoned => true
  | _ => false

end OperationStatus

/-! ## Schema classes -/

namespace SchemaClass

def major : UInt8 := 0
def event : UInt8 := 1
def annotation : UInt8 := 2
def collectionMemberType : UInt8 := 3
def error : UInt8 := 4
def registry : UInt8 := 5

/-- Every schema class, by its code. -/
def all : List UInt8 := [major, event, annotation, collectionMemberType, error, registry]

end SchemaClass

end DeviceEnablement
