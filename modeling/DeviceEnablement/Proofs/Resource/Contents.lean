/-
  What a registry of records holds, and what is found in it.

  Several resources may come to one URI, through empty segments, absolute ones, repeated names or
  slashes at the end.  The resources are put in by ascending ids, and the first one keeps the URI.

  1. `mem_keys_nodesOf`: there is a node for every id that a record names, of those that count.
  2. `get?_byUri_ofResources`, `get?_byClass_ofResources`: an index leads to the first resource with
     a key.
  3. `getByUri_eq`, `getByClass_eq`: so a look-up in a registry of records goes through the
     resources in order, and finds the one with the lowest id (`find?_eq_some_iff_lowest`).
  4. `contents_of_records`: all of it, for any records.  What was listed only by a record that
     another one with its id replaced is not there (`superseded_listing`).
-/
import DeviceEnablement.Proofs.Resource.Lookup
import DeviceEnablement.Proofs.Resource.Uris

namespace DeviceEnablement

namespace Registry

variable {records : List ResourceRecord} {operations : List OperationType} {r : Registry}
  {id : UInt32}

/-! ## Nodes -/

/-- Whether an id is named by a record that counts: as its own, or as one that it lists. -/
def NamedIn (records : List ResourceRecord) (id : UInt32) : Prop :=
  ∃ record, recordOf? records record.resourceId = some record ∧ record.Names id

/-- There is a node for every id that is named. -/
theorem mem_keys_nodesOf : id ∈ (nodesOf records).keys ↔ NamedIn records id := by
  rw [Table.mem_keys_iff]
  constructor
  · rintro ⟨node, hnode⟩
    obtain ⟨record, hmem, hnames⟩ := Hierarchy.names_of_nodes hnode
    exact ⟨record, mem_inOrder_recordTable.mp hmem, hnames⟩
  · rintro ⟨record, hrecord, hnames⟩
    have hmem := mem_inOrder_recordTable.mpr hrecord
    rw [nodesOf, Hierarchy.get?_nodes, recordOf?_inOrder]
    rcases hnames with rfl | hlisted
    · exact ⟨_, by rw [hrecord, Option.map_some, Option.some_or]⟩
    · have hfound : ((inOrder (recordTable records)).findSome? (Hierarchy.listing? id)).isSome := by
        rw [List.findSome?_isSome_iff]
        refine ⟨record, hmem, ?_⟩
        simpa [Hierarchy.listing?] using hlisted
      obtain ⟨node, hnode⟩ := Option.isSome_iff_exists.mp hfound
      cases recordOf? records id with
      | some own => exact ⟨_, rfl⟩
      | none => exact ⟨node, by rw [Option.map_none, Option.none_or, hnode]⟩

/-! ## Indices -/

section Index

variable {κ : Type} [DecidableEq κ]

/-- An index leads to the first resource with a key. -/
theorem get?_index_ofResources (key : Resource → κ) (index : Registry → Table κ UInt32)
    (hempty : index {} = {}) (hinsert : ∀ r resource,
      index (insert r resource) = (index r).insertNew (key resource) resource.resourceId)
    (resources : List Resource) (k : κ) :
    (index (ofResources resources)).get? k =
      (resources.find? fun resource => key resource = k).map Resource.resourceId := by
  have hall : ∀ (rs : List Resource) (r : Registry), index (rs.foldl insert r) =
      rs.foldl (fun t resource => t.insertNew (key resource) resource.resourceId) (index r) := by
    intro rs
    induction rs with
    | nil => exact fun _ => rfl
    | cons resource rest ih =>
      intro r
      rw [List.foldl_cons, ih, hinsert, List.foldl_cons]
  rw [ofResources, hall, hempty]
  exact (Table.get?_foldl_insertNew key Resource.resourceId resources {} k).trans Option.none_or

end Index

theorem get?_byUri_ofResources (resources : List Resource) (uri : String) :
    (ofResources resources).byUri.get? uri =
      (resources.find? fun resource => uriKey resource = uri).map Resource.resourceId :=
  get?_index_ofResources uriKey Registry.byUri rfl (fun _ _ => rfl) resources uri

theorem get?_byClass_ofResources (resources : List Resource) (schemaClass : UInt8) :
    (ofResources resources).byClass.get? schemaClass =
      (resources.find? fun resource => resource.schemaClass = schemaClass).map
        Resource.resourceId :=
  get?_index_ofResources Resource.schemaClass Registry.byClass rfl (fun _ _ => rfl) resources
    schemaClass

/-! ## Look-ups -/

theorem found_error_iff {α : Type} {description : String} {value : Option α} {e : ModelError} :
    found description value = .error e ↔ value = none ∧ e = .resourceNotFound description := by
  cases value <;> simp [found, eq_comm]

theorem Keyed.get?_eq_some_iff (h : r.Keyed) {resource : Resource} :
    r.get? id = some resource ↔ resource ∈ r.resources ∧ resource.resourceId = id := by
  rw [mem_resources]
  constructor
  · intro hfound
    exact ⟨⟨id, hfound⟩, (h id resource hfound).1⟩
  · rintro ⟨⟨id', hfound⟩, rfl⟩
    rwa [(h id' resource hfound).1]

/-- The id for a URI is that of the first resource with it. -/
theorem idOfUri_eq (h : r.Rebuilt) (uri : String) :
    r.idOfUri uri = found uri ((r.resources.find? fun resource =>
      uriKey resource = Hierarchy.normalize uri).map Resource.resourceId) := by
  have hindex : r.byUri = (ofResources r.resources).byUri := by rw [h]
  rw [idOfUri, hindex, get?_byUri_ofResources]

/-- What is found under the id of a resource is that resource. -/
theorem Keyed.bind_get?_find? (hkeyed : r.Keyed) (p : Resource → Bool) :
    ((r.resources.find? p).map Resource.resourceId).bind r.get? = r.resources.find? p := by
  cases hfound : r.resources.find? p with
  | none => rfl
  | some resource =>
    rw [Option.map_some, Option.bind_some]
    exact hkeyed.get?_eq_some_iff.mpr ⟨List.mem_of_find?_eq_some hfound, rfl⟩

theorem getByUri_eq (h : r.Rebuilt) (hkeyed : r.Keyed) (uri : String) :
    r.getByUri uri = found uri (r.resources.find? fun resource =>
      uriKey resource = Hierarchy.normalize uri) := by
  have hbind := hkeyed.bind_get?_find? fun resource =>
    decide (uriKey resource = Hierarchy.normalize uri)
  rw [getByUri, idOfUri_eq h]
  cases hfound : r.resources.find? fun resource => uriKey resource = Hierarchy.normalize uri with
  | none => rfl
  | some resource =>
    rw [hfound] at hbind
    exact congrArg (found uri) hbind

theorem getByClass_eq (h : r.Rebuilt) (hkeyed : r.Keyed) (schemaClass : UInt8) :
    r.getByClass schemaClass = found s!"schema class {schemaClass}"
      (r.resources.find? fun resource => resource.schemaClass = schemaClass) := by
  have hindex : r.byClass = (ofResources r.resources).byClass := by rw [h]
  rw [getByClass, hindex, get?_byClass_ofResources, hkeyed.bind_get?_find?]

/-- Whether a resource is the one with the lowest id among those of some kind. -/
structure Lowest (r : Registry) (kind : Resource → Prop) (resource : Resource) : Prop where
  mem : resource ∈ r.resources
  is : kind resource
  least : ∀ other ∈ r.resources, kind other → resource.resourceId ≤ other.resourceId

/-- The first resource in order has the lowest id. -/
theorem lowest_of_find? (hkeyed : r.Keyed) {kind : Resource → Prop} [DecidablePred kind]
    {resource : Resource}
    (hfound : (r.resources.find? fun resource => kind resource) = some resource) :
    r.Lowest kind resource := by
  have hsorted := hkeyed.pairwise_resources
  obtain ⟨hkind, before, after, hsplit, hbefore⟩ := List.find?_eq_some_iff_append.mp hfound
  refine ⟨List.mem_of_find?_eq_some hfound, of_decide_eq_true hkind, fun other hother hkind' => ?_⟩
  rw [hsplit] at hother hsorted
  rcases List.mem_append.mp hother with hearlier | hlater
  · exact absurd hkind' (by simpa using hbefore other hearlier)
  · rcases List.mem_cons.mp hlater with rfl | hlater
    · exact UInt32.le_refl _
    · have hrest := List.pairwise_cons.mp (List.pairwise_append.mp hsorted).2.1
      exact UInt32.le_of_lt (hrest.1 other hlater)

/-- No two resources have the lowest id. -/
theorem Lowest.unique (hkeyed : r.Keyed) {kind : Resource → Prop} {a b : Resource}
    (ha : r.Lowest kind a) (hb : r.Lowest kind b) : a = b := by
  have hid : a.resourceId = b.resourceId :=
    UInt32.le_antisymm (ha.least b hb.mem hb.is) (hb.least a ha.mem ha.is)
  have hgeta := hkeyed.get?_eq_some_iff.mpr ⟨ha.mem, hid⟩
  have hgetb := hkeyed.get?_eq_some_iff.mpr ⟨hb.mem, rfl⟩
  exact Option.some.inj (hgeta.symm.trans hgetb)

/-- Only the resources that there are make a difference. -/
theorem lowest_congr {kind kind' : Resource → Prop} {resource : Resource}
    (h : ∀ other ∈ r.resources, (kind other ↔ kind' other)) :
    r.Lowest kind resource ↔ r.Lowest kind' resource := by
  constructor
  · rintro ⟨hmem, his, hleast⟩
    exact ⟨hmem, (h _ hmem).mp his,
      fun other hother hkind => hleast other hother ((h _ hother).mpr hkind)⟩
  · rintro ⟨hmem, his, hleast⟩
    exact ⟨hmem, (h _ hmem).mpr his,
      fun other hother hkind => hleast other hother ((h _ hother).mp hkind)⟩

theorem find?_eq_some_iff_lowest (hkeyed : r.Keyed) (kind : Resource → Prop) [DecidablePred kind]
    (resource : Resource) :
    (r.resources.find? fun resource => kind resource) = some resource ↔ r.Lowest kind resource := by
  constructor
  · exact lowest_of_find? hkeyed
  · intro hlowest
    cases hfound : r.resources.find? fun resource => kind resource with
    | none => simpa [hlowest.is] using List.find?_eq_none.mp hfound resource hlowest.mem
    | some other => exact congrArg some ((lowest_of_find? hkeyed hfound).unique hkeyed hlowest)

/-! ## Contents -/

/-- Whether a resource has the schema that its record names; without a record it has none. -/
def DescribedBy (records : List ResourceRecord) (resource : Resource) : Prop :=
  (∀ record, recordOf? records resource.resourceId = some record →
    resource.schemaName = record.schemaName ∧ resource.schemaVersion = record.version.text) ∧
  (recordOf? records resource.resourceId = none →
    resource.schemaName = "" ∧ resource.schemaVersion = "")

/-- Whether a registry holds what records say, and how its resources are found. -/
structure HoldsContents (r : Registry) (records : List ResourceRecord) : Prop where
  /-- There is one resource for every id that is named, and no other. -/
  ids : ∀ id, (∃ resource ∈ r.resources, resource.resourceId = id) ↔ NamedIn records id
  once : r.resources.Pairwise fun a b => a.resourceId < b.resourceId
  get? : ∀ id resource,
    r.get? id = some resource ↔ resource ∈ r.resources ∧ resource.resourceId = id
  /-- Of the resources with a URI the one with the lowest id is found. -/
  byUri : ∀ uri resource, r.getByUri uri = .ok resource ↔
    r.Lowest (fun other => Hierarchy.normalize other.uri = Hierarchy.normalize uri) resource
  idByUri : ∀ uri id, r.idOfUri uri = .ok id ↔
    ∃ resource, r.getByUri uri = .ok resource ∧ resource.resourceId = id
  noUri : ∀ uri e, r.idOfUri uri = .error e ↔ e = .resourceNotFound uri ∧
    ∀ resource ∈ r.resources, Hierarchy.normalize resource.uri ≠ Hierarchy.normalize uri
  /-- All resources are of the major class. -/
  byClass : ∀ resource,
    r.getByClass SchemaClass.major = .ok resource ↔ r.Lowest (fun _ => True) resource
  noClass : ∀ e, r.getByClass SchemaClass.major = .error e ↔
    e = .resourceNotFound "schema class 0" ∧ r.resources = []
  described : ∀ resource ∈ r.resources, DescribedBy records resource

/-- The resources are those that there is a node for. -/
theorem mem_resources_ofRecords {resource : Resource} :
    resource ∈ (ofRecords records operations).resources ↔
      NamedIn records resource.resourceId ∧
        describe (recordTable records) (nodesOf records) operations resource.resourceId =
          resource := by
  rw [mem_resources, ← mem_keys_nodesOf, Table.mem_keys_iff]
  simp only [get?_ofRecords, Option.map_eq_some_iff]
  constructor
  · rintro ⟨id, node, hnode, rfl⟩
    exact ⟨⟨node, hnode⟩, rfl⟩
  · rintro ⟨⟨node, hnode⟩, hdescribe⟩
    exact ⟨_, node, hnode, hdescribe⟩

theorem describedBy_describe (records : List ResourceRecord) (nodes : Table UInt32 ResourceNode)
    (operations : List OperationType) (id : UInt32) :
    DescribedBy records (describe (recordTable records) nodes operations id) := by
  constructor
  · intro record (hrecord : recordOf? records id = some record)
    simp [describe, get?_recordTable, hrecord]
  · intro (hnone : recordOf? records id = none)
    simp [describe, get?_recordTable, hnone]

/-- A registry that is built from records holds what they say, and finds the resource with the
    lowest id wherever several could be meant. -/
theorem contents_of_records (records : List ResourceRecord) (operations : List OperationType) :
    (ofRecords records operations).HoldsContents records := by
  have hkeyed := keyed_ofRecords records operations
  have hrebuilt := rebuilt_ofRecords records operations
  have hmajor : ∀ resource ∈ (ofRecords records operations).resources,
      resource.schemaClass = SchemaClass.major := by
    intro resource hmem
    obtain ⟨id, hfound⟩ := mem_resources.mp hmem
    exact (hkeyed id resource hfound).2
  constructor
  case ids =>
    intro id
    constructor
    · rintro ⟨resource, hmem, rfl⟩
      exact (mem_resources_ofRecords.mp hmem).1
    · intro hnamed
      exact ⟨describe (recordTable records) (nodesOf records) operations id,
        mem_resources_ofRecords.mpr ⟨hnamed, rfl⟩, rfl⟩
  case once => exact hkeyed.pairwise_resources
  case get? => exact fun id resource => hkeyed.get?_eq_some_iff
  case byUri =>
    intro uri resource
    rw [getByUri_eq hrebuilt hkeyed, found_ok_iff, find?_eq_some_iff_lowest hkeyed]
    rfl
  case idByUri =>
    intro uri id
    rw [idOfUri_eq hrebuilt, found_ok_iff, Option.map_eq_some_iff]
    simp only [getByUri_eq hrebuilt hkeyed, found_ok_iff]
  case noUri =>
    intro uri e
    rw [idOfUri_eq hrebuilt, found_error_iff, Option.map_eq_none_iff, and_comm]
    simp only [List.find?_eq_none, decide_eq_true_eq]
    rfl
  case byClass =>
    intro resource
    rw [getByClass_eq hrebuilt hkeyed, found_ok_iff, find?_eq_some_iff_lowest hkeyed]
    exact lowest_congr fun other hother => iff_true_intro (hmajor other hother)
  case noClass =>
    intro e
    rw [getByClass_eq hrebuilt hkeyed, found_error_iff, and_comm, List.eq_nil_iff_forall_not_mem]
    simp only [List.find?_eq_none, decide_eq_true_eq]
    refine and_congr_right fun _ => forall_congr' fun resource => forall_congr' fun hmem => ?_
    exact iff_false_intro fun hother => hother (hmajor resource hmem)
  case described =>
    intro resource hmem
    obtain ⟨-, hdescribe⟩ := mem_resources_ofRecords.mp hmem
    rw [← hdescribe]
    exact describedBy_describe _ _ _ _

/-- A record that lists a resource, and one that takes its place and does not. -/
def superseded : List ResourceRecord :=
  [sampleRecord 1 0 "" "A" [⟨20, "B"⟩], sampleRecord 1 0 "" "A" []]

/-- The listing is lost with the record it stands in. -/
theorem superseded_listing : (∃ record ∈ superseded, record.Names 20) ∧
    ∀ resource ∈ (ofRecords superseded []).resources, resource.resourceId ≠ 20 := by
  have hlast : ∀ record ∈ superseded,
      recordOf? superseded record.resourceId = some record → ¬ record.Names 20 := by decide
  refine ⟨by decide, fun resource hmem hid => ?_⟩
  obtain ⟨⟨record, hrecord, hnames⟩, -⟩ := mem_resources_ofRecords.mp hmem
  rw [hid] at hnames
  exact hlast record (List.mem_reverse.mp (List.mem_of_find?_eq_some hrecord)) hrecord hnames

end Registry

end DeviceEnablement
