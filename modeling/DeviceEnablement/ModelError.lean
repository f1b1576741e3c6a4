/-
  What can be wrong with the model of a device: its resources, its metadata, and the bodies that a
  codec turns into device form and back.
-/
import DeviceEnablement.Metadata
import DeviceEnablement.Message.Error
import DeviceEnablement.Files.Folder

namespace DeviceEnablement

/-- What is wrong with the body of a request. -/
inductive PayloadFault
  /-- It is not JSON. -/
  | malformed
  /-- It is JSON, but not an object. -/
  | notAnObject
  deriving DecidableEq

/-- The wording of a fault. -/
def PayloadFault.message : PayloadFault → String
  | malformed => "payload is not JSON"
  | notAnObject => "payload is not a JSON object"

/-- Why the model of a device cannot answer. -/
inductive ModelError
  /-- No resource is known by this description. -/
  | resourceNotFound (description : String)
  /-- The record at this place of the list cannot be read. -/
  | badRecord (index : Nat) (cause : MessageError)
  /-- The device has not told this yet. -/
  | missingMetadata (key : MetadataKey)
  | invalidPayload (fault : PayloadFault)
  /-- The codec cannot encode a body. -/
  | encode (reason : String)
  /-- The codec cannot decode a body. -/
  | decode (reason : String)
  | io (cause : FileError)
  /-- The content of a file is not what it should be. -/
  | json
  deriving DecidableEq

namespace ModelError

/-- The wording of an error. -/
def message : ModelError → String
  | resourceNotFound description => s!"resource not found: {description}"
  | badRecord index cause => s!"failed to decode resource PDR #{index}: {cause.message}"
  | missingMetadata key => s!"required metadata field not set: {key.name}"
  | invalidPayload fault => s!"invalid JSON payload: {fault.message}"
  | encode reason => s!"BEJ encode failed: {reason}"
  | decode reason => s!"BEJ decode failed: {reason}"
  | io .notFound => "I/O error: not found"
  | io .failed => "I/O error: access failed"
  | json => "JSON error: unexpected content"

/-- The kind of an error, for callers. -/
def code : ModelError → String
  | resourceNotFound _ => "RESOURCE_NOT_FOUND"
  | badRecord _ _ => "BAD_PDR"
  | missingMetadata _ => "PRECONDITION_FAILED"
  | invalidPayload _ => "BAD_REQUEST"
  | encode _ => "ENCODE_FAILED"
  | decode _ => "DECODE_FAILED"
  | io _ => "IO_ERROR"
  | json => "BAD_REQUEST"

/-- Whether a resource is unknown, rather than the model at fault. -/
def isNotFound : ModelError → Bool
  | resourceNotFound _ => true
  | _ => false

end ModelError

/-- The value of a field that has to be there. -/
def Metadata.require {α : Type} (key : MetadataKey) : Option α → Except ModelError α
  | some value => .ok value
  | none => .error (.missingMetadata key)

/-- The value of a field; an absent one is an error unless the field may be absent. -/
def Metadata.read (m : Metadata) (key : MetadataKey) : Except ModelError (Option MetadataField) :=
  if Metadata.isRequired key then (Metadata.require key (m.get? key)).map some
  else .ok (m.get? key)

end DeviceEnablement
