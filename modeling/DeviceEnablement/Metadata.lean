/-
  What a controller and a device have agreed on.

  The controller's own values are always there.  Those of the device are absent until the response
  that carries them has been read, and asking for an absent one is an error; the etag and the
  session id may be absent without being one (`isRequired`).

  1. `get?_set` says that setting a field changes that field and no other.
  2. `clearNegotiated` forgets the six values of the device and the etag.
  3. `effectiveConcurrency` is at least one (`one_le_effectiveConcurrency`).
-/
import DeviceEnablement.Message.Operation

namespace DeviceEnablement

/-- The name of a field. -/
inductive MetadataKey
  | controllerConcurrency
  | controllerFeatures
  | controllerMaxChunk
  | deviceConcurrency
  | deviceCapabilities
  | deviceFeatures
  | deviceSignature
  | deviceProvider
  | deviceMaxChunk
  | protocolVersion
  | encoding
  | etag
  | sessionId
  deriving DecidableEq

namespace MetadataKey

/-- Every field. -/
def all : List MetadataKey :=
  [controllerConcurrency, controllerFeatures, controllerMaxChunk, deviceConcurrency,
   deviceCapabilities, deviceFeatures, deviceSignature, deviceProvider, deviceMaxChunk,
   protocolVersion, encoding, etag, sessionId]

/-- The text of a field's name. -/
def name : MetadataKey → String
  | controllerConcurrency => "mc_concurrency_support"
  | controllerFeatures => "mc_feature_support"
  | controllerMaxChunk => "mc_max_transfer_chunk_size"
  | deviceConcurrency => "device_concurrency_support"
  | deviceCapabilities => "device_capabilities"
  | deviceFeatures => "device_feature_support"
  | deviceSignature => "device_configuration_signature"
  | deviceProvider => "device_provider_name"
  | deviceMaxChunk => "device_max_transfer_chunk_size"
  | protocolVersion => "protocol_version"
  | encoding => "encoding"
  | etag => "etag"
  | sessionId => "session_id"

/-- The field with this name. -/
def ofName? (name : String) : Option MetadataKey := all.find? fun key => key.name = name

end MetadataKey

/-- The value of one field. -/
inductive MetadataField
  | controllerConcurrency (value : UInt8)
  | controllerFeatures (value : Features)
  | controllerMaxChunk (value : UInt32)
  | deviceConcurrency (value : UInt8)
  | deviceCapabilities (value : Capabilities)
  | deviceFeatures (value : Features)
  | deviceSignature (value : UInt32)
  | deviceProvider (value : String)
  | deviceMaxChunk (value : UInt32)
  | protocolVersion (value : String)
  | encoding (value : String)
  | etag (value : String)
  | sessionId (value : String)
  deriving DecidableEq

namespace MetadataField

/-- The name of the field. -/
def key : MetadataField → MetadataKey
  | controllerConcurrency _ => .controllerConcurrency
  | controllerFeatures _ => .controllerFeatures
  | controllerMaxChunk _ => .controllerMaxChunk
  | deviceConcurrency _ => .deviceConcurrency
  | deviceCapabilities _ => .deviceCapabilities
  | deviceFeatures _ => .deviceFeatures
  | deviceSignature _ => .deviceSignature
  | deviceProvider _ => .deviceProvider
  | deviceMaxChunk _ => .deviceMaxChunk
  | protocolVersion _ => .protocolVersion
  | encoding _ => .encoding
  | etag _ => .etag
  | sessionId _ => .sessionId

end MetadataField

/-- What a controller and a device have agreed on. -/
structure Metadata where
  controllerConcurrency : UInt8 := 1
  controllerFeatures : Features := ⟨0x13⟩
  controllerMaxChunk : UInt32 := 1024
  protocolVersion : String := "1.0"
  encoding : String := "application/json"
  deviceConcurrency : Option UInt8 := none
  deviceCapabilities : Option Capabilities := none
  deviceFeatures : Option Features := none
  deviceSignature : Option UInt32 := none
  deviceProvider : Option String := none
  deviceMaxChunk : Option UInt32 := none
  etag : Option String := none
  sessionId : Option String := none
  deriving DecidableEq

namespace Metadata

/-! ## Fields -/

/-- Sets one field. -/
def set (m : Metadata) : MetadataField → Metadata
  | .controllerConcurrency v => { m with controllerConcurrency := v }
  | .controllerFeatures v => { m with controllerFeatures := v }
  | .controllerMaxChunk v => { m with controllerMaxChunk := v }
  | .deviceConcurrency v => { m with deviceConcurrency := some v }
  | .deviceCapabilities v => { m with deviceCapabilities := some v }
  | .deviceFeatures v => { m with deviceFeatures := some v }
  | .deviceSignature v => { m with deviceSignature := some v }
  | .deviceProvider v => { m with deviceProvider := some v }
  | .deviceMaxChunk v => { m with deviceMaxChunk := some v }
  | .protocolVersion v => { m with protocolVersion := v }
  | .encoding v => { m with encoding := v }
  | .etag v => { m with etag := some v }
  | .sessionId v => { m with sessionId := some v }

/-- The value of a field, if it is set. -/
def get? (m : Metadata) : MetadataKey → Option MetadataField
  | .controllerConcurrency => some (.controllerConcurrency m.controllerConcurrency)
  | .controllerFeatures => some (.controllerFeatures m.controllerFeatures)
  | .controllerMaxChunk => some (.controllerMaxChunk m.controllerMaxChunk)
  | .deviceConcurrency => m.deviceConcurrency.map .deviceConcurrency
  | .deviceCapabilities => m.deviceCapabilities.map .deviceCapabilities
  | .deviceFeatures => m.deviceFeatures.map .deviceFeatures
  | .deviceSignature => m.deviceSignature.map .deviceSignature
  | .deviceProvider => m.deviceProvider.map .deviceProvider
  | .deviceMaxChunk => m.deviceMaxChunk.map .deviceMaxChunk
  | .protocolVersion => some (.protocolVersion m.protocolVersion)
  | .encoding => some (.encoding m.encoding)
  | .etag => m.etag.map .etag
  | .sessionId => m.sessionId.map .sessionId

/-- Setting a field changes that field and no other. -/
theorem get?_set (m : Metadata) (field : MetadataField) (key : MetadataKey) :
    (m.set field).get? key = if key = field.key then some field else m.get? key := by
  cases field <;> cases key <;> rfl

/-- Every field that is set, in the order of `MetadataKey.all`. -/
def fields (m : Metadata) : List MetadataField := MetadataKey.all.filterMap m.get?

/-- Forgets what was learned from the device. -/
def clearNegotiated (m : Metadata) : Metadata :=
  { m with
    deviceConcurrency := none
    deviceCapabilities := none
    deviceFeatures := none
    deviceSignature := none
    deviceProvider := none
    deviceMaxChunk := none
    etag := none }

/-- Whether an absent value of this field is an error. -/
def isRequired : MetadataKey → Bool
  | .etag | .sessionId => false
  | _ => true

/-! ## What both sides support -/

/-- The number of requests that may be outstanding at once: the smaller of both sides' numbers, but
    at least one, and one as long as the device has not told its own. -/
def effectiveConcurrency (m : Metadata) : UInt8 :=
  match m.deviceConcurrency with
  | some device => max 1 (min device m.controllerConcurrency)
  | none => 1

theorem one_le_effectiveConcurrency (m : Metadata) : 1 ≤ m.effectiveConcurrency.toNat := by
  unfold effectiveConcurrency
  split
  · rename_i device _
    by_cases h : 1 ≤ min device m.controllerConcurrency
    · rw [show max 1 (min device m.controllerConcurrency) = min device m.controllerConcurrency from
        if_pos h]
      exact UInt8.le_iff_toNat_le.mp h
    · rw [show max 1 (min device m.controllerConcurrency) = 1 from if_neg h]
      decide
  · decide

/-- The operations that both sides support; none before the device has told its own. -/
def supportedOperations (m : Metadata) : List OperationType :=
  match m.deviceFeatures with
  | some device => (device.inter m.controllerFeatures).operations
  | none => []

end Metadata

end DeviceEnablement
