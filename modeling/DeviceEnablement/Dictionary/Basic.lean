/-
  Schema dictionaries and their file form.

  A dictionary grows by appending until it is marked complete.  Its file begins with a header of
  twenty bytes: the letters `RDED`, a format version, the key, whether it is complete, the length
  of the content and the CRC-32C of the content; the content follows.

  `decode` refuses a file as corrupt for the first of these reasons that applies: it is shorter
  than a header, the letters differ, the version is unknown, the length does not match what
  follows, the check does not match the content.
-/
import DeviceEnablement.Dictionary.Key
import DeviceEnablement.Checksum
import DeviceEnablement.Files.Folder
import DeviceEnablement.Text.Hexadecimal

namespace DeviceEnablement

/-- Why the store of dictionaries refuses something. -/
inductive StoreError
  /-- A file cannot be accessed. -/
  | io (cause : FileError)
  | invalidArgument (reason : String)
  /-- Nothing can be appended to a complete dictionary. -/
  | complete (key : DictionaryKey)
  | notFound (key : DictionaryKey)
  /-- The content of a file is not a dictionary. -/
  | corrupt (file : String) (reason : String)
  deriving DecidableEq

namespace StoreError

/-- The wording of an error. -/
def message : StoreError → String
  | io .notFound => "I/O error: not found"
  | io .failed => "I/O error: access failed"
  | invalidArgument reason => s!"invalid argument: {reason}"
  | complete key => s!"dictionary {key.text} is already complete"
  | notFound key => s!"dictionary {key.text} not found"
  | corrupt file reason => s!"data corruption in {file}: {reason}"

/-- Whether the same call may succeed later. -/
def isRetryable : StoreError → Bool
  | io _ => true
  | _ => false

end StoreError

/-- A schema dictionary, whole or in part. -/
structure Dictionary where
  key : DictionaryKey
  data : Bytes
  complete : Bool
  /-- The name of the file in which it is kept. -/
  file : String
  deriving DecidableEq

namespace Dictionary

/-- The dictionary of which nothing has arrived yet. -/
def new (key : DictionaryKey) (file : String) : Dictionary :=
  { key, data := [], complete := false, file }

/-- A complete dictionary. -/
def ofContent (key : DictionaryKey) (file : String) (data : Bytes) : Dictionary :=
  { key, data, complete := true, file }

/-- Appends bytes, unless the dictionary is complete. -/
def append (d : Dictionary) (bytes : Bytes) : Except StoreError Dictionary :=
  if d.complete then .error (.complete d.key) else .ok { d with data := d.data ++ bytes }

/-- Marks the dictionary as complete. -/
def markComplete (d : Dictionary) : Dictionary := { d with complete := true }

/-! ## File form -/

/-- The letters at the front of every file. -/
def magic : Bytes := [0x52, 0x44, 0x45, 0x44]

/-- The version of the file form. -/
def formatVersion : UInt16 := 1

/-- The size of the header. -/
def headerSize : Nat := 20

/-- The file of a dictionary. -/
def encode (d : Dictionary) : Bytes :=
  magic ++ Bytes.ofU16 formatVersion ++ Bytes.ofU32 d.key.resourceId
    ++ [d.key.schemaClass, if d.complete then 1 else 0] ++ Bytes.ofU32 (.ofNat d.data.length)
    ++ Bytes.ofU32 (Checksum.dictionary d.data) ++ d.data

/-- A list of bytes as an error text shows it. -/
def showBytes (bytes : Bytes) : String :=
  "[" ++ ", ".intercalate (bytes.map fun b => toString b.toNat) ++ "]"

/-- The dictionary in a file. -/
def decode (file : String) (bytes : Bytes) : Except StoreError Dictionary :=
  match bytes with
  | m0 :: m1 :: m2 :: m3 :: v0 :: v1 :: r0 :: r1 :: r2 :: r3 :: schemaClass :: complete
      :: l0 :: l1 :: l2 :: l3 :: c0 :: c1 :: c2 :: c3 :: data =>
    let version := Bytes.toU16 v0 v1
    let length := (Bytes.toU32 l0 l1 l2 l3).toNat
    let expected := Bytes.toU32 c0 c1 c2 c3
    let actual := Checksum.dictionary data
    if [m0, m1, m2, m3] ≠ magic then
      .error (.corrupt file ("invalid magic: " ++ showBytes [m0, m1, m2, m3]))
    else if version ≠ formatVersion then
      .error (.corrupt file s!"unsupported format version {version}")
    else if data.length ≠ length then
      .error (.corrupt file s!"length mismatch: header says {length}, found {data.length}")
    else if actual ≠ expected then
      .error (.corrupt file ("CRC mismatch: expected " ++ Hexadecimal.short expected.toNat
        ++ ", got " ++ Hexadecimal.short actual.toNat))
    else
      .ok { key := ⟨Bytes.toU32 r0 r1 r2 r3, schemaClass⟩, data, complete := complete ≠ 0, file }
  | _ => .error (.corrupt file s!"file too short: {bytes.length} bytes")

/-! ## Files -/

/-- Writes the dictionary to its file. -/
def save (d : Dictionary) (folder : Folder) : Except StoreError Unit × Folder :=
  match folder.save d.file d.encode with
  | (.ok (), folder) => (.ok (), folder)
  | (.error e, folder) => (.error (.io e), folder)

/-- Reads the dictionary in a file. -/
def load (file : String) (folder : Folder) : Except StoreError Dictionary × Folder :=
  match folder.read file with
  | (.ok bytes, folder) => (decode file bytes, folder)
  | (.error e, folder) => (.error (.io e), folder)

/-- Removes the file of the dictionary, if there is one. -/
def removeFile (d : Dictionary) (folder : Folder) : Except StoreError Unit × Folder :=
  match folder.discard d.file with
  | (.ok (), folder) => (.ok (), folder)
  | (.error e, folder) => (.error (.io e), folder)

end Dictionary

end DeviceEnablement
