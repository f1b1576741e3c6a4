/-
  Keys of dictionaries: a resource and the class of its schema.

  The key (0, 0) is reserved for the dictionary of annotations, which a device has once.
-/
import DeviceEnablement.Wire.Bytes

namespace DeviceEnablement

/-- Which dictionary of a device is meant. -/
structure DictionaryKey where
  resourceId : UInt32
  schemaClass : UInt8
  deriving DecidableEq

namespace DictionaryKey

/-- The key of the dictionary of annotations. -/
def reserved : DictionaryKey := ⟨0, 0⟩

/-- Whether this is the key of the dictionary of annotations. -/
def isReserved (key : DictionaryKey) : Bool := key = reserved

/-- The name of the file in which the dictionary is kept. -/
def fileName (key : DictionaryKey) : String :=
  if key.isReserved then "annotation.bin"
  else s!"dictionary_{key.resourceId}_{key.schemaClass}.bin"

/-- The text of a key. -/
def text (key : DictionaryKey) : String := s!"({key.resourceId}, {key.schemaClass})"

/-- Keys in the order of their resources, then of their classes. -/
def le (a b : DictionaryKey) : Bool :=
  a.resourceId < b.resourceId ∨ (a.resourceId = b.resourceId ∧ a.schemaClass ≤ b.schemaClass)

end DictionaryKey

end DeviceEnablement
