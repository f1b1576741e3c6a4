/-
  Resource records: what a device announces about one of its resources.

  A record is written field by field in a fixed order, numbers lowest byte first.  A string is a
  two-byte length and that many bytes of UTF-8, and may not hold a NUL; a list is a two-byte count
  and its elements.  A reader tolerates one NUL at the end of a string, which some devices count in
  the length, and ignores what follows the record.
-/
import DeviceEnablement.Wire.Reader

namespace DeviceEnablement

/-- The version of a schema. -/
structure SchemaVersion where
  major : UInt8
  minor : UInt8
  revision : UInt8
  alpha : UInt8
  deriving DecidableEq

namespace SchemaVersion

/-- The version that says that none is given. -/
def unspecified : SchemaVersion := ⟨255, 255, 255, 255⟩

/-- Whether a version is given. -/
def isUnspecified (v : SchemaVersion) : Bool := v = unspecified

/-- The text of a version. -/
def text (v : SchemaVersion) : String :=
  if v.isUnspecified then "?.?" else s!"{v.major}.{v.minor}.{v.revision}.{v.alpha}"

end SchemaVersion

/-- A resource that a record lists as its child. -/
structure AdditionalResource where
  resourceId : UInt32
  name : String
  deriving DecidableEq

/-- A record about one resource. -/
structure ResourceRecord where
  resourceId : UInt32
  flags : UInt8
  /-- The resource that contains this one; 0 when none on the device does. -/
  containerId : UInt32
  /-- The name proposed for a resource that nothing on the device contains. -/
  proposedName : String
  subUri : String
  additional : List AdditionalResource
  version : SchemaVersion
  dictionaryLength : UInt16
  dictionarySignature : UInt32
  schemaName : String
  oemNames : List String
  deriving DecidableEq

namespace ResourceRecord

/-- Whether nothing on the device contains the resource. -/
def isRoot (record : ResourceRecord) : Bool := record.containerId = 0

/-! ## Writing -/

/-- A length or a count in its two-byte field. -/
def encodeCount (field : String) (count : Nat) : Except MessageError Bytes :=
  if count ≤ 65535 then .ok (Bytes.ofU16 (.ofNat count)) else .error (.invalidLength field count)

/-- A string with its length in front. -/
def encodeString (text : String) : Except MessageError Bytes :=
  if text.toList.contains '\x00' then .error (.embeddedNul "PDR string")
  else do
    let body := Bytes.utf8 text
    return (← encodeCount "string" body.length) ++ body

/-- Elements one behind the other; `acc` holds the pieces written so far in reverse. -/
def encodeAllOnto {α : Type} (encode : α → Except MessageError Bytes) (acc : List Bytes) :
    List α → Except MessageError Bytes
  | [] => .ok acc.reverse.flatten
  | x :: xs =>
    match encode x with
    | .ok bytes => encodeAllOnto encode (bytes :: acc) xs
    | .error e => .error e

/-- A list with its count in front. -/
def encodeList {α : Type} (field : String) (encode : α → Except MessageError Bytes)
    (xs : List α) : Except MessageError Bytes := do
  return (← encodeCount field xs.length) ++ (← encodeAllOnto encode [] xs)

/-- An additional resource. -/
def encodeAdditional (a : AdditionalResource) : Except MessageError Bytes := do
  return Bytes.ofU32 a.resourceId ++ (← encodeString a.name)

/-- The written form of a record. -/
def encode (r : ResourceRecord) : Except MessageError Bytes := do
  let proposedName ← encodeString r.proposedName
  let subUri ← encodeString r.subUri
  let additional ← encodeList "additional resources" encodeAdditional r.additional
  let schemaName ← encodeString r.schemaName
  let oemNames ← encodeList "OEM names" encodeString r.oemNames
  return Bytes.ofU32 r.resourceId ++ [r.flags] ++ Bytes.ofU32 r.containerId ++ proposedName
    ++ subUri ++ additional
    ++ [r.version.major, r.version.minor, r.version.revision, r.version.alpha]
    ++ Bytes.ofU16 r.dictionaryLength ++ Bytes.ofU32 r.dictionarySignature ++ schemaName
    ++ oemNames

/-! ## Reading -/

/-- A string without the one NUL that may stand at its end. -/
def withoutTerminator (raw : Bytes) : Bytes :=
  if raw.getLast? = some 0 then raw.dropLast else raw

/-- A string with its length in front. -/
def readString : Reader String := do
  let length ← Reader.u16
  let raw := withoutTerminator (← Reader.take length.toNat)
  if raw.contains 0 then Reader.fail (.embeddedNul "PDR string")
  else
    match Bytes.text? raw with
    | some text => return text
    | none => Reader.fail (.invalidUtf8 "PDR string")

/-- A list with its count in front. -/
def readList {α : Type} (element : Reader α) : Reader (List α) := do
  let count ← Reader.u16
  Reader.many element count.toNat

/-- An additional resource. -/
def readAdditional : Reader AdditionalResource := do
  let resourceId ← Reader.u32
  let name ← readString
  return { resourceId, name }

/-- The version of a schema. -/
def readVersion : Reader SchemaVersion
  | major :: minor :: revision :: alpha :: rest => (.ok { major, minor, revision, alpha }, rest)
  | bytes => (.error (.truncated 4 bytes.length), bytes)

/-- A record. -/
def read : Reader ResourceRecord := do
  let resourceId ← Reader.u32
  let flags ← Reader.u8
  let containerId ← Reader.u32
  let proposedName ← readString
  let subUri ← readString
  let additional ← readList readAdditional
  let version ← readVersion
  let dictionaryLength ← Reader.u16
  let dictionarySignature ← Reader.u32
  let schemaName ← readString
  let oemNames ← readList readString
  return { resourceId, flags, containerId, proposedName, subUri, additional, version,
           dictionaryLength, dictionarySignature, schemaName, oemNames }

/-- The record at the front of a byte string. -/
def decode (bytes : Bytes) : Except MessageError ResourceRecord := read.run bytes

end ResourceRecord

end DeviceEnablement
