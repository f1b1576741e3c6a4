/-
  The resources of a registry and the keys of their dictionaries.

  1. `mem_resources`: the resources are those that are found under some id.
  2. `Registry.Offers`: a key belongs to the schema dictionary of a resource.  The operations of the
     resources make no difference to it (`offers_setOperations`).
  3. `ResourceRecord.Names`: a record names its own id and those of the additional resources it lists.
     A registry that is built from records has no resource besides those (`names_of_offers`,
     `named_of_reload`).
-/
import DeviceEnablement.Dictionary.Key
import DeviceEnablement.Proofs.Table
import DeviceEnablement.Resource.Registry

namespace DeviceEnablement

/-- The key of the schema dictionary of a resource. -/
def Resource.key (resource : Resource) : DictionaryKey :=
  ⟨resource.resourceId, resource.schemaClass⟩

/-- Whether a record speaks of the resource with this id: as its own, or as one that it lists. -/
def ResourceRecord.Names (record : ResourceRecord) (id : UInt32) : Prop :=
  record.resourceId = id ∨ ∃ a ∈ record.additional, a.resourceId = id

instance (record : ResourceRecord) (id : UInt32) : Decidable (record.Names id) :=
  inferInstanceAs (Decidable (_ ∨ _))

namespace Registry

variable {r : Registry} {key : DictionaryKey} {resource : Resource}

/-! ## Resources -/

theorem mem_inOrder {α : Type} {table : Table UInt32 α} {v : α} :
    v ∈ inOrder table ↔ ∃ id, table.get? id = some v := by
  unfold inOrder
  simp only [List.mem_map, List.mem_mergeSort, Prod.exists, exists_eq_right, Table.get?_eq_some_iff]

theorem mem_resources : resource ∈ r.resources ↔ ∃ id, r.get? id = some resource := mem_inOrder

/-- Whether this is the key of the schema dictionary of a resource. -/
def Offers (r : Registry) (key : DictionaryKey) : Prop :=
  ∃ resource ∈ r.resources, resource.key = key

theorem offers_iff : r.Offers key ↔ ∃ id resource, r.get? id = some resource ∧ resource.key = key := by
  unfold Offers
  simp only [mem_resources]
  constructor
  · rintro ⟨resource, ⟨id, hfound⟩, hkey⟩
    exact ⟨id, resource, hfound, hkey⟩
  · rintro ⟨id, resource, hfound, hkey⟩
    exact ⟨resource, ⟨id, hfound⟩, hkey⟩

/-- The key of a resource does not depend on its operations. -/
theorem offers_setOperations (r : Registry) (operations : List OperationType)
    (key : DictionaryKey) : (r.setOperations operations).Offers key ↔ r.Offers key := by
  have hget : ∀ id, (r.setOperations operations).get? id =
      (r.get? id).map fun resource => { resource with operations } :=
    fun id => Table.get?_mapValues r.entries _ id
  rw [offers_iff, offers_iff]
  constructor
  · rintro ⟨id, resource, hfound, hkey⟩
    rw [hget, Option.map_eq_some_iff] at hfound
    obtain ⟨old, hold, rfl⟩ := hfound
    exact ⟨id, old, hold, hkey⟩
  · rintro ⟨id, resource, hfound, hkey⟩
    refine ⟨id, { resource with operations }, ?_, hkey⟩
    rw [hget, hfound]
    rfl

/-- A resource that is found by its URI is one of the resources. -/
theorem offers_of_getByUri {uri : String} (h : r.getByUri uri = .ok resource) :
    r.Offers resource.key := by
  unfold getByUri at h
  split at h
  · rename_i id _
    cases hfound : r.get? id with
    | none =>
      rw [hfound] at h
      cases h
    | some resource' =>
      rw [hfound] at h
      cases h
      exact offers_iff.mpr ⟨id, resource, hfound, rfl⟩
  · cases h

end Registry

/-! ## Building -/

/-- What holds after a list was gone through was brought about by one of its elements, or held
    before. -/
theorem exists_or_of_foldl {α β : Type} {f : α → β → α} (p : α → Prop) (q : β → Prop)
    (step : ∀ a b, p (f a b) → q b ∨ p a) (bs : List β) {a : α} (h : p (bs.foldl f a)) :
    (∃ b ∈ bs, q b) ∨ p a := by
  induction bs generalizing a with
  | nil => exact Or.inr h
  | cons b rest ih =>
    rcases ih h with ⟨b', hrest, hb'⟩ | hfirst
    · exact Or.inl ⟨b', List.mem_cons_of_mem _ hrest, hb'⟩
    · rcases step a b hfirst with hb | hbefore
      · exact Or.inl ⟨b, List.mem_cons_self, hb⟩
      · exact Or.inr hbefore

namespace Registry

/-- What is found in a registry was put in. -/
theorem mem_of_get?_ofResources {resources : List Resource} {resource : Resource} {id : UInt32}
    (h : (ofResources resources).get? id = some resource) : resource ∈ resources := by
  have hstep : ∀ (r : Registry) (other : Resource),
      (r.insert other).get? id = some resource → other = resource ∨ r.get? id = some resource :=
    fun r other hfound =>
      (Table.of_get?_insert hfound).imp (fun hnew => hnew.2.symm) (fun hold => hold.2)
  rcases exists_or_of_foldl (fun r : Registry => r.get? id = some resource) (· = resource)
    hstep resources h with ⟨_, hmem, rfl⟩ | hempty
  · exact hmem
  · cases hempty

theorem mem_of_get?_recordTable {records : List ResourceRecord} {record : ResourceRecord}
    {id : UInt32} (h : (recordTable records).get? id = some record) : record ∈ records := by
  have hstep : ∀ (table : Table UInt32 ResourceRecord) (other : ResourceRecord),
      (table.insert other.resourceId other).get? id = some record →
      other = record ∨ table.get? id = some record :=
    fun table other hfound =>
      (Table.of_get?_insert hfound).imp (fun hnew => hnew.2.symm) (fun hold => hold.2)
  rcases exists_or_of_foldl
    (fun table : Table UInt32 ResourceRecord => table.get? id = some record) (· = record)
    hstep records h with ⟨_, hmem, rfl⟩ | hempty
  · exact hmem
  · cases hempty

end Registry

namespace Hierarchy

variable {records : List ResourceRecord} {id : UInt32} {node : ResourceNode}

theorem names_of_ownNodes (h : (ownNodes records).get? id = some node) :
    ∃ record ∈ records, record.Names id := by
  have hstep : ∀ (nodes : Table UInt32 ResourceNode) (record : ResourceRecord),
      (nodes.insert record.resourceId ⟨segment record, record.containerId⟩).get? id = some node →
      record.Names id ∨ nodes.get? id = some node :=
    fun nodes record hfound =>
      (Table.of_get?_insert hfound).imp (fun hnew => Or.inl hnew.1.symm) (fun hold => hold.2)
  rcases exists_or_of_foldl (fun nodes : Table UInt32 ResourceNode => nodes.get? id = some node)
    (·.Names id) hstep records h with hnamed | hempty
  · exact hnamed
  · cases hempty

/-- A child that is added is one of those that are listed. -/
theorem names_of_addChild {parent : UInt32} {children : List AdditionalResource}
    {nodes : Table UInt32 ResourceNode}
    (h : (children.foldl (addChild parent) nodes).get? id = some node) :
    (∃ a ∈ children, a.resourceId = id) ∨ nodes.get? id = some node := by
  refine exists_or_of_foldl (fun nodes : Table UInt32 ResourceNode => nodes.get? id = some node)
    (·.resourceId = id) (fun nodes a hfound => ?_) children h
  unfold addChild at hfound
  rw [Table.get?_insertNew] at hfound
  split at hfound
  · rename_i hid
    exact Or.inl hid.symm
  · exact Or.inr hfound

/-- Every node is named by a record. -/
theorem names_of_nodes (h : (nodes records).get? id = some node) :
    ∃ record ∈ records, record.Names id := by
  have hstep : ∀ (nodes : Table UInt32 ResourceNode) (record : ResourceRecord),
      (record.additional.foldl (addChild record.resourceId) nodes).get? id = some node →
      record.Names id ∨ nodes.get? id = some node :=
    fun nodes record hfound => (names_of_addChild hfound).imp_left Or.inr
  rcases exists_or_of_foldl (fun nodes : Table UInt32 ResourceNode => nodes.get? id = some node)
    (·.Names id) hstep records h with hnamed | hown
  · exact hnamed
  · exact names_of_ownNodes hown

end Hierarchy

namespace Registry

variable {key : DictionaryKey}

/-- A registry that is built from records has a resource only under an id that a record names. -/
theorem names_of_offers {records : List ResourceRecord} {operations : List OperationType}
    (h : (ofRecords records operations).Offers key) :
    ∃ record ∈ records, record.Names key.resourceId := by
  obtain ⟨id, resource, hfound, rfl⟩ := offers_iff.mp h
  have hmem := mem_of_get?_ofResources hfound
  rw [List.mem_map] at hmem
  obtain ⟨id', hid', rfl⟩ := hmem
  unfold ascending at hid'
  rw [List.mem_mergeSort, Table.mem_keys_iff] at hid'
  obtain ⟨node, hnode⟩ := hid'
  obtain ⟨record, hrecord, hnames⟩ := Hierarchy.names_of_nodes hnode
  obtain ⟨_, hkept⟩ := mem_inOrder.mp hrecord
  exact ⟨record, mem_of_get?_recordTable hkept, hnames⟩

theorem not_offers_empty : ¬ ({} : Registry).Offers key := by
  intro h
  obtain ⟨id, resource, hfound, -⟩ := offers_iff.mp h
  cases hfound

/-- Whether one of the records in these payloads names the resource with this id. -/
def Named (payloads : List Bytes) (id : UInt32) : Prop :=
  ∃ records, decodeRecords 0 payloads = .ok records ∧ ∃ record ∈ records, record.Names id

instance (payloads : List Bytes) (id : UInt32) : Decidable (Named payloads id) :=
  match h : decodeRecords 0 payloads with
  | .ok records =>
    decidable_of_iff (∃ record ∈ records, record.Names id)
      ⟨fun hnames => ⟨records, h, hnames⟩, fun ⟨_, hdecoded, hnames⟩ =>
        Except.ok.inj (h.symm.trans hdecoded) ▸ hnames⟩
  | .error _ => .isFalse fun ⟨_, hdecoded, _⟩ => nomatch h.symm.trans hdecoded

/-- A registry that is reloaded from payloads has a resource only under an id that one of their
    records names. -/
theorem named_of_reload {r : Registry} {payloads : List Bytes} {operations : List OperationType}
    (h : (r.reload payloads operations).2.Offers key) : Named payloads key.resourceId := by
  unfold reload ofPayloads at h
  cases hdecode : decodeRecords 0 payloads with
  | error e =>
    rw [hdecode] at h
    exact absurd h not_offers_empty
  | ok records =>
    rw [hdecode] at h
    exact ⟨records, hdecode, names_of_offers h⟩

end Registry

end DeviceEnablement
