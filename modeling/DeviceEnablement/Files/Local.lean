/-
  Local files that are only read.

  An oracle says what each read yields, so that the content of a file may change between two reads.
-/
import DeviceEnablement.Wire.Bytes

namespace DeviceEnablement

/-- The files outside the folders of the devices. -/
structure LocalFiles where
  /-- What the read with this number of the file at this path yields; none if it cannot be read. -/
  content : Nat → String → Option Bytes := fun _ _ => none
  /-- The number of reads so far. -/
  reads : Nat := 0

namespace LocalFiles

/-- The content of a file. -/
def read (files : LocalFiles) (path : String) : Option Bytes × LocalFiles :=
  (files.content files.reads path, { files with reads := files.reads + 1 })

end LocalFiles

end DeviceEnablement
