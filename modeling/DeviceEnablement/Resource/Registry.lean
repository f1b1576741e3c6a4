/-
  The registry of a device's resources.

  A registry lists the resources under their ids, and finds the first one that was put in with a
  given URI or a given schema class.  It is built from records, or restored from a dump, which has
  no records.

  1. `ofRecords` makes one entry for each node of the hierarchy, in ascending order of the ids; of
     two records with one id the last one counts.
  2. `reload` forgets everything first (`reset`); when a payload cannot be read, the registry stays
     empty.
  3. A look-up by URI ignores one slash at the end.
-/
import DeviceEnablement.Resource.Hierarchy
import DeviceEnablement.ModelError
import DeviceEnablement.Message.Json

namespace DeviceEnablement

/-- One resource of a device. -/
structure Resource where
  resourceId : UInt32
  uri : String
  schemaClass : UInt8
  schemaName : String
  schemaVersion : String
  operations : List OperationType
  deriving DecidableEq

/-- One operation that one resource supports. -/
structure SchemaInfo where
  uri : String
  schemaName : String
  schemaVersion : String
  operation : OperationType
  deriving DecidableEq

/-- The operation on the resource, as JSON. -/
def SchemaInfo.toJson (info : SchemaInfo) : Json :=
  .object
    [("uri", .string info.uri), ("schemaName", .string info.schemaName),
     ("schemaVersion", .string info.schemaVersion), ("operation", info.operation.toJson)]

/-- The resources of a device. -/
structure Registry where
  entries : Table UInt32 Resource := {}
  /-- The resource for each URI, normalised. -/
  byUri : Table String UInt32 := {}
  /-- The resource for each schema class. -/
  byClass : Table UInt8 UInt32 := {}
  /-- The records that the entries come from. -/
  records : Table UInt32 ResourceRecord := {}

namespace Registry

/-! ## Building -/

/-- Puts a resource in.  The one that had its URI or its class before keeps it. -/
def insert (r : Registry) (resource : Resource) : Registry :=
  { r with
    entries := r.entries.insert resource.resourceId resource
    byUri := r.byUri.insertNew (Hierarchy.normalize resource.uri) resource.resourceId
    byClass := r.byClass.insertNew resource.schemaClass resource.resourceId }

/-- The registry with these resources, put in one after the other. -/
def ofResources (resources : List Resource) : Registry := resources.foldl insert {}

/-- Records under their ids; of two with one id the last one stays. -/
def recordTable (records : List ResourceRecord) : Table UInt32 ResourceRecord :=
  records.foldl (fun table r => table.insert r.resourceId r) {}

/-- Ids in ascending order. -/
def ascending (ids : List UInt32) : List UInt32 := ids.mergeSort fun a b => a ≤ b

/-- The values of a table in ascending order of their ids. -/
def inOrder {α : Type} (table : Table UInt32 α) : List α :=
  (table.entries.mergeSort fun a b => a.1 ≤ b.1).map Prod.snd

/-- The resource with this id: its schema is the one its record names, if it has a record. -/
def describe (records : Table UInt32 ResourceRecord) (nodes : Table UInt32 ResourceNode)
    (operations : List OperationType) (id : UInt32) : Resource :=
  { resourceId := id
    uri := Hierarchy.uri nodes id
    schemaClass := SchemaClass.major
    schemaName := ((records.get? id).map (·.schemaName)).getD ""
    schemaVersion := ((records.get? id).map (·.version.text)).getD ""
    operations }

/-- The registry of these records, all of whose resources support `operations`. -/
def ofRecords (records : List ResourceRecord) (operations : List OperationType) : Registry :=
  let records := recordTable records
  let nodes := Hierarchy.nodes (inOrder records)
  { ofResources ((ascending nodes.keys).map (describe records nodes operations)) with records }

/-- The records in payloads, of which the first has the number `index`; empty payloads are passed
    over. -/
def decodeRecords (index : Nat) : List Bytes → Except ModelError (List ResourceRecord)
  | [] => .ok []
  | [] :: rest => decodeRecords (index + 1) rest
  | payload :: rest =>
    match ResourceRecord.decode payload with
    | .ok record => (decodeRecords (index + 1) rest).map (record :: ·)
    | .error cause => .error (.badRecord index cause)

/-- The registry of the records in these payloads. -/
def ofPayloads (payloads : List Bytes) (operations : List OperationType) :
    Except ModelError Registry :=
  (decodeRecords 0 payloads).map (ofRecords · operations)

/-- Forgets all resources and their records. -/
def reset (r : Registry) : Registry :=
  { r with entries := {}, byUri := {}, byClass := {}, records := {} }

/-- Empties a registry, and then replaces it by that of these payloads.  It stays empty if they cannot
    be read. -/
def reload (r : Registry) (payloads : List Bytes) (operations : List OperationType) :
    Except ModelError Unit × Registry :=
  let r := r.reset
  match ofPayloads payloads operations with
  | .ok registry => (.ok (), registry)
  | .error e => (.error e, r)

/-- Gives every resource these operations. -/
def setOperations (r : Registry) (operations : List OperationType) : Registry :=
  { r with entries := r.entries.mapValues fun resource => { resource with operations } }

/-! ## Looking up -/

/-- The resources in ascending order of their ids. -/
def resources (r : Registry) : List Resource := inOrder r.entries

/-- The number of resources. -/
def size (r : Registry) : Nat := r.entries.size

/-- Whether there are no resources. -/
def isEmpty (r : Registry) : Bool := r.entries.isEmpty

/-- The resource with this id. -/
def get? (r : Registry) (id : UInt32) : Option Resource := r.entries.get? id

/-- A result, or the error that a resource with this description is unknown. -/
def found {α : Type} (description : String) : Option α → Except ModelError α
  | some value => .ok value
  | none => .error (.resourceNotFound description)

/-- The id of the resource with this URI. -/
def idOfUri (r : Registry) (uri : String) : Except ModelError UInt32 :=
  found uri (r.byUri.get? (Hierarchy.normalize uri))

/-- The resource with this URI. -/
def getByUri (r : Registry) (uri : String) : Except ModelError Resource :=
  match r.idOfUri uri with
  | .ok id => found uri (r.get? id)
  | .error e => .error e

/-- The first resource with this schema class. -/
def getByClass (r : Registry) (schemaClass : UInt8) : Except ModelError Resource :=
  found s!"schema class {schemaClass}" ((r.byClass.get? schemaClass).bind r.get?)

/-- The URI of the resource with this id. -/
def uriOfId (r : Registry) (id : UInt32) : Except ModelError String :=
  found s!"resource {id}" ((r.get? id).map (·.uri))

/-- The record of the resource with this id, if it has one. -/
def record? (r : Registry) (id : UInt32) : Option ResourceRecord := r.records.get? id

/-- The ids of the resources that have a record, in ascending order. -/
def recordIds (r : Registry) : List UInt32 := ascending r.records.keys

/-! ## Summaries -/

/-- Each operation of each resource. -/
def schemaInfo (r : Registry) : List SchemaInfo :=
  r.resources.flatMap fun resource =>
    resource.operations.map fun operation =>
      { uri := resource.uri, schemaName := resource.schemaName,
        schemaVersion := resource.schemaVersion, operation }

/-- The operations that at least one resource supports, in the order of the codes. -/
def supportedOperations (r : Registry) : List OperationType :=
  OperationType.all.filter fun operation =>
    r.resources.any fun resource => resource.operations.contains operation

/-- What the schema map says about one record. -/
def schemaMapEntry (record : ResourceRecord) : Json :=
  Json.ofMembers
    [("ProposedContainingResourceName", .string record.proposedName),
     ("MajorSchemaName", .string record.schemaName),
     ("MajorSchemaVersion", .string record.version.text),
     ("SubURI", .string record.subUri),
     ("OEMExtensions", .array (record.oemNames.map .string))]

/-- The schemas of all records, under the decimal texts of their ids. -/
def schemaMap (r : Registry) : Json :=
  Json.ofMembers [("Resources",
    Json.ofMembers (r.records.entries.map fun (id, record) =>
      (toString id.toNat, schemaMapEntry record)))]

end Registry

end DeviceEnablement
