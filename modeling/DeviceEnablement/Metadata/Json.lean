/-
  The JSON form of what was agreed on.

  Numbers and bits are written as integers, names and tags as strings.  The form does not say which
  field it is: reading it takes the name of the field, and refuses what does not fit there.

  `ofJson?_toJson`: what is written is read back.
-/
import DeviceEnablement.Metadata
import DeviceEnablement.Json.Basic

namespace DeviceEnablement.MetadataField

/-- The value of a field as JSON. -/
def toJson : MetadataField → Json
  | controllerConcurrency v => Json.ofNat v.toNat
  | controllerFeatures v => Json.ofNat v.bits.toNat
  | controllerMaxChunk v => Json.ofNat v.toNat
  | deviceConcurrency v => Json.ofNat v.toNat
  | deviceCapabilities v => Json.ofNat v.bits.toNat
  | deviceFeatures v => Json.ofNat v.bits.toNat
  | deviceSignature v => Json.ofNat v.toNat
  | deviceProvider v => .string v
  | deviceMaxChunk v => Json.ofNat v.toNat
  | protocolVersion v => .string v
  | encoding v => .string v
  | etag v => .string v
  | sessionId v => .string v

/-- The byte in a JSON value. -/
def byte? (json : Json) : Option UInt8 := (json.natUpTo? 255).map .ofNat

/-- The two-byte word in a JSON value. -/
def word? (json : Json) : Option UInt16 := (json.natUpTo? 65535).map .ofNat

/-- The four-byte word in a JSON value. -/
def long? (json : Json) : Option UInt32 := (json.natUpTo? 4294967295).map .ofNat

/-- The field with this name whose value is in a JSON value. -/
def ofJson? (key : MetadataKey) (json : Json) : Option MetadataField :=
  match key with
  | .controllerConcurrency => (byte? json).map controllerConcurrency
  | .controllerFeatures => (word? json).map fun bits => controllerFeatures ⟨bits⟩
  | .controllerMaxChunk => (long? json).map controllerMaxChunk
  | .deviceConcurrency => (byte? json).map deviceConcurrency
  | .deviceCapabilities => (byte? json).map fun bits => deviceCapabilities ⟨bits⟩
  | .deviceFeatures => (word? json).map fun bits => deviceFeatures ⟨bits⟩
  | .deviceSignature => (long? json).map deviceSignature
  | .deviceProvider => json.string?.map deviceProvider
  | .deviceMaxChunk => (long? json).map deviceMaxChunk
  | .protocolVersion => json.string?.map protocolVersion
  | .encoding => json.string?.map encoding
  | .etag => json.string?.map etag
  | .sessionId => json.string?.map sessionId

/-! ## Writing and reading -/

theorem natUpTo?_ofNat {max n : Nat} (h : n ≤ max) : (Json.ofNat n).natUpTo? max = some n := by
  simp [Json.natUpTo?, Json.ofNat, Json.int?, h]

theorem byte?_ofNat (v : UInt8) : byte? (Json.ofNat v.toNat) = some v := by
  have h := v.toNat_lt
  rw [byte?, natUpTo?_ofNat (by omega), Option.map_some, UInt8.ofNat_toNat]

theorem word?_ofNat (v : UInt16) : word? (Json.ofNat v.toNat) = some v := by
  have h := v.toNat_lt
  rw [word?, natUpTo?_ofNat (by omega), Option.map_some, UInt16.ofNat_toNat]

theorem long?_ofNat (v : UInt32) : long? (Json.ofNat v.toNat) = some v := by
  have h := v.toNat_lt
  rw [long?, natUpTo?_ofNat (by omega), Option.map_some, UInt32.ofNat_toNat]

/-- What is written is read back. -/
theorem ofJson?_toJson (field : MetadataField) : ofJson? field.key field.toJson = some field := by
  cases field <;>
    simp [ofJson?, key, toJson, byte?_ofNat, word?_ofNat, long?_ofNat, Json.string?]

end DeviceEnablement.MetadataField
