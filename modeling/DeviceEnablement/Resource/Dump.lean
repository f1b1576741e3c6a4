/-
  The dump of a registry: a file that lists its resources.

  The file is a JSON array with one object a resource, on several lines, the fields in a fixed
  order.  Reading it back:

  1. A resource is an object with each of the six fields once; other members are passed over, and
     need only follow the grammar.  An array of the six values in their order is read as well.
  2. The resources are put in one after the other, so that the first one with a URI or a schema
     class keeps it, and the last one with an id.
-/
import DeviceEnablement.Resource.Registry
import DeviceEnablement.Json.Writing

namespace DeviceEnablement

namespace Resource

/-- The names of the fields, in the order in which they are written. -/
def fieldNames : List String :=
  ["resourceId", "uri", "schemaClass", "schemaName", "schemaVersion", "operations"]

/-! ## Writing -/

/-- A resource as JSON. -/
def toJson (resource : Resource) : Json :=
  .object
    [("resourceId", Json.ofNat resource.resourceId.toNat),
     ("uri", .string resource.uri),
     ("schemaClass", Json.ofNat resource.schemaClass.toNat),
     ("schemaName", .string resource.schemaName),
     ("schemaVersion", .string resource.schemaVersion),
     ("operations", .array (resource.operations.map OperationType.toJson))]

/-! ## Reading -/

/-- The text of a string. -/
def rawText? : Json.Raw → Option String
  | .string pieces => Json.text? pieces
  | _ => none

/-- The value of an integer that is not negative and at most `max`. -/
def rawNat? (max : Nat) : Json.Raw → Option Nat
  | .number literal => (Json.number literal.number).natUpTo? max
  | _ => none

/-- The operation in a tree: its name, or an object of one member with that name and `null`. -/
def rawOperation? : Json.Raw → Option OperationType
  | .string pieces => (Json.text? pieces).bind OperationType.ofName?
  | .object [(name, .null)] => (Json.text? name).bind OperationType.ofName?
  | _ => none

/-- The operations in an array. -/
def rawOperations? : Json.Raw → Option (List OperationType)
  | .array items => items.mapM rawOperation?
  | _ => none

/-- The resource with the six values in the order of their fields. -/
def ofValues? : List Json.Raw → Option Resource
  | [resourceId, uri, schemaClass, schemaName, schemaVersion, operations] => do
    let resourceId ← rawNat? 4294967295 resourceId
    let uri ← rawText? uri
    let schemaClass ← rawNat? 255 schemaClass
    let schemaName ← rawText? schemaName
    let schemaVersion ← rawText? schemaVersion
    let operations ← rawOperations? operations
    return { resourceId := .ofNat resourceId, uri, schemaClass := .ofNat schemaClass, schemaName,
             schemaVersion, operations }
  | _ => none

/-- The value of the one member with this name; none if there is no such member, or several. -/
def onlyMember? (members : List (String × Json.Raw)) (name : String) : Option Json.Raw :=
  match members.filter fun member => member.1 = name with
  | [(_, value)] => some value
  | _ => none

/-- The resource in a tree. -/
def ofRaw? : Json.Raw → Option Resource
  | .array values => ofValues? values
  | .object members => do
    let members ← members.mapM fun (name, value) => (Json.text? name).map (·, value)
    ofValues? (← fieldNames.mapM (onlyMember? members))
  | _ => none

end Resource

namespace Registry

/-- The text of a dump. -/
def dump (r : Registry) : String := (Json.array (r.resources.map Resource.toJson)).pretty

/-- The registry in the text of a dump. -/
def ofDump? (text : String) : Option Registry :=
  match Json.Raw.ofText? text with
  | some (.array items) => (items.mapM Resource.ofRaw?).map ofResources
  | _ => none

/-- Writes the dump to a file. -/
def save (r : Registry) (folder : Folder) (name : String) : Except ModelError Unit × Folder :=
  match folder.put name (Bytes.utf8 r.dump) with
  | (.ok (), folder) => (.ok (), folder)
  | (.error e, folder) => (.error (.io e), folder)

/-- The registry in a file. -/
def load (folder : Folder) (name : String) : Except ModelError Registry × Folder :=
  match folder.read name with
  | (.ok bytes, folder) =>
    match (Bytes.text? bytes).bind ofDump? with
    | some registry => (.ok registry, folder)
    | none => (.error .json, folder)
  | (.error e, folder) => (.error (.io e), folder)

end Registry

end DeviceEnablement
