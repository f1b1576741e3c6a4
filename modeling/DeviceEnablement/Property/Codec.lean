/-
  The codec between property trees and the form in which a device takes and gives bodies.

  A codec works with two dictionaries, that of the resource's schema and that of the annotations.
  Which codec is used is up to the caller; nothing here depends on what it does.
-/
import DeviceEnablement.Property.Tree
import DeviceEnablement.Wire.Bytes

namespace DeviceEnablement

/-- The dictionaries needed for one body. -/
structure CodecDictionaries where
  schema : Bytes
  annotations : Bytes
  deriving DecidableEq

/-- Encodes trees and decodes bodies. -/
structure Codec where
  /-- The device form of a tree, for a resource with a schema of the given class. -/
  encode : PropertyNode → CodecDictionaries → UInt8 → Except ModelError Bytes
  /-- The JSON text of a body. -/
  decode : Bytes → CodecDictionaries → Except ModelError String

end DeviceEnablement
