/-
  The URIs of resources.

  Each resource is a node with a path segment and a parent.  A record makes a node of its own, and
  one for each additional resource that has no record (`nodes`).  The URI of a resource joins the
  segments on the way from the top down to it; the way up ends at id 0, at an id without a node, or
  at a node that was passed before.

  1. `chain` walks up and takes each node out of the table as it passes, so it ends after visiting
     each node at most once.
  2. `join` puts a slash between URI and segment only where one is missing.
  3. A top segment that names the service root is absolute (`absolute?`); every other chain starts
     at `serviceRoot`.
-/
import DeviceEnablement.Resource.Record
import DeviceEnablement.Table

namespace DeviceEnablement

/-- A resource in the hierarchy. -/
structure ResourceNode where
  segment : String
  parent : UInt32
  deriving DecidableEq

namespace Hierarchy

/-! ## Nodes -/

/-- The segment of a record: the name proposed for it if nothing on the device contains it and a
    name is proposed, else its own part of the URI. -/
def segment (record : ResourceRecord) : String :=
  if record.isRoot ∧ record.proposedName ≠ "" then record.proposedName else record.subUri

/-- The nodes of the records themselves. -/
def ownNodes (records : List ResourceRecord) : Table UInt32 ResourceNode :=
  records.foldl (fun nodes r => nodes.insert r.resourceId ⟨segment r, r.containerId⟩) {}

/-- Adds a node for an additional resource below `parent`, unless there is one with its id. -/
def addChild (parent : UInt32) (nodes : Table UInt32 ResourceNode) (a : AdditionalResource) :
    Table UInt32 ResourceNode :=
  nodes.insertNew a.resourceId ⟨a.name, parent⟩

/-- The nodes of records and of the additional resources they list.  The record of a resource comes
    before what others say of it, and the first listing before later ones. -/
def nodes (records : List ResourceRecord) : Table UInt32 ResourceNode :=
  records.foldl (fun nodes r => r.additional.foldl (addChild r.resourceId) nodes)
    (ownNodes records)

/-! ## The way up -/

/-- The segments from a resource up to the top. -/
def chain (nodes : Table UInt32 ResourceNode) (id : UInt32) : List String :=
  if id = 0 then []
  else
    match _h : nodes.get? id with
    | none => []
    | some node => node.segment :: chain (nodes.erase id) node.parent
termination_by nodes.size
decreasing_by exact nodes.size_erase_lt _h

/-! ## Joining -/

/-- The URI that every chain starts at. -/
def serviceRoot : String := "/redfish/v1"

/-- The characters of the service root without the slash in front. -/
def serviceRootPath : List Char := serviceRoot.toList.drop 1

/-- A URI with one segment more. -/
def join (uri segment : String) : String :=
  match segment.toList with
  | [] => uri
  | '/' :: _ => uri ++ segment
  | _ => uri ++ "/" ++ segment

/-- The text without slashes at its end. -/
def trimEnd (text : List Char) : List Char := (text.reverse.dropWhile (· = '/')).reverse

/-- The URI that a top segment names by itself: leading slashes aside, it is the service root or
    begins with it and a slash. -/
def absolute? (segment : String) : Option String :=
  let path := segment.toList.dropWhile (· = '/')
  if path = serviceRootPath ∨ (serviceRootPath ++ ['/']).isPrefixOf path then
    some (String.ofList ('/' :: trimEnd path))
  else none

/-- The URI of a top segment. -/
def top (segment : String) : String := (absolute? segment).getD (join serviceRoot segment)

/-- The URI of a chain of segments, the top one first. -/
def uriOfPath : List String → String
  | [] => serviceRoot
  | first :: rest => rest.foldl join (top first)

/-- The URI of a resource. -/
def uri (nodes : Table UInt32 ResourceNode) (id : UInt32) : String :=
  uriOfPath (chain nodes id).reverse

/-! ## Comparing -/

/-- A URI without one slash at its end; a slash alone stays. -/
def normalize (uri : String) : String :=
  match uri.toList.reverse with
  | '/' :: c :: rest => String.ofList (c :: rest).reverse
  | _ => uri

end Hierarchy

end DeviceEnablement
