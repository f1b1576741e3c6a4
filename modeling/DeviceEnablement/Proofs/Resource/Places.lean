/-
  Where the resources of a device stand.

  A resource stands below a parent, with a segment of its own in the URI.  Its record says so; of a
  resource without one, the record with the lowest id that lists it.

  1. `Registry.recordOf?`: the record of a resource.  Of two records with one id the last one counts.
  2. `Hierarchy.Placed`: where a resource stands, as the records say it.
  3. `Hierarchy.nodes_iff`: the nodes of the hierarchy are the places of the resources.
  4. `Registry.get?_ofRecords`: a registry has one resource for each node, and no others.
  5. `Registry.Keyed`: each resource stands under its own id.  So the resources are in the order of
     their ids (`Keyed.pairwise_resources`).
-/
import DeviceEnablement.Proofs.Resource.Registry
import Mathlib.Logic.Basic

namespace DeviceEnablement

namespace Registry

variable {records : List ResourceRecord} {record : ResourceRecord} {id : UInt32}

/-! ## The order of the ids -/

/-- The entries of a table in the order of their ids, each id once. -/
theorem pairwise_entries {α : Type} (table : Table UInt32 α) :
    (table.entries.mergeSort fun a b => a.1 ≤ b.1).Pairwise fun a b => a.1 < b.1 := by
  have hsorted : (table.entries.mergeSort fun a b => a.1 ≤ b.1).Pairwise
      fun a b => (decide (a.1 ≤ b.1) : Bool) = true :=
    List.pairwise_mergeSort
      (fun a b c hab hbc => by
        simp only [decide_eq_true_eq] at hab hbc ⊢
        exact UInt32.le_trans hab hbc)
      (fun a b => by simpa using UInt32.le_total a.1 b.1)
      table.entries
  have hdistinct : (table.entries.mergeSort fun a b => a.1 ≤ b.1).Pairwise fun a b => a.1 ≠ b.1 :=
    List.pairwise_map.mp (((List.mergeSort_perm _ _).map Prod.fst).nodup_iff.mpr table.nodup)
  exact (hsorted.and hdistinct).imp fun h => UInt32.lt_of_le_of_ne (of_decide_eq_true h.1) h.2

/-- The values of a table in which each one stands under its own id, in the order of these. -/
theorem pairwise_inOrder {α : Type} {table : Table UInt32 α} (idOf : α → UInt32)
    (hid : ∀ id v, table.get? id = some v → idOf v = id) :
    (inOrder table).Pairwise fun a b => idOf a < idOf b := by
  refine List.pairwise_map.mpr ((pairwise_entries table).imp_of_mem ?_)
  have hown : ∀ e ∈ table.entries.mergeSort (fun a b => a.1 ≤ b.1), idOf e.2 = e.1 := fun e he =>
    hid e.1 e.2 ((Table.get?_eq_some_iff _ e.1 e.2).mpr (List.mem_mergeSort.mp he))
  intro a b ha hb hlt
  rw [hown a ha, hown b hb]
  exact hlt

/-- Ids of which none occurs twice, in strictly ascending order. -/
theorem pairwise_ascending {ids : List UInt32} (hnodup : ids.Nodup) :
    (ascending ids).Pairwise (· < ·) := by
  have hsorted : (ascending ids).Pairwise fun a b => (decide (a ≤ b) : Bool) = true :=
    List.pairwise_mergeSort
      (fun a b c hab hbc => by
        simp only [decide_eq_true_eq] at hab hbc ⊢
        exact UInt32.le_trans hab hbc)
      (fun a b => by simpa using UInt32.le_total a b)
      ids
  have hdistinct : (ascending ids).Nodup := (List.mergeSort_perm _ _).nodup_iff.mpr hnodup
  exact (hsorted.and hdistinct).imp fun h => UInt32.lt_of_le_of_ne (of_decide_eq_true h.1) h.2

/-- There is only one way to list elements in strictly ascending order of their ids. -/
theorem eq_of_perm_of_ascending {β : Type} (idOf : β → UInt32) {bs bs' : List β}
    (hperm : bs.Perm bs') (h : bs.Pairwise fun a b => idOf a < idOf b)
    (h' : bs'.Pairwise fun a b => idOf a < idOf b) : bs = bs' := by
  refine List.Perm.eq_of_pairwise (fun a b _ _ hab hba => ?_) h h' hperm
  exact absurd (UInt32.lt_trans hab hba) (UInt32.lt_irrefl _)

/-- The values of a table whose entries are known in the order of their ids. -/
theorem inOrder_eq_of_perm {α : Type} {table : Table UInt32 α} {sorted : List (UInt32 × α)}
    (hperm : table.entries.Perm sorted) (hsorted : sorted.Pairwise fun a b => a.1 < b.1) :
    inOrder table = sorted.map Prod.snd :=
  congrArg (List.map Prod.snd) (eq_of_perm_of_ascending Prod.fst
    ((List.mergeSort_perm _ _).trans hperm) (pairwise_entries table) hsorted)

theorem ascending_eq_of_perm {ids sorted : List UInt32} (hperm : ids.Perm sorted)
    (hsorted : sorted.Pairwise (· < ·)) : ascending ids = sorted := by
  have hnodup : ids.Nodup := hperm.nodup_iff.mpr (hsorted.imp UInt32.ne_of_lt)
  exact eq_of_perm_of_ascending id ((List.mergeSort_perm _ _).trans hperm)
    (pairwise_ascending hnodup) hsorted

/-! ## Records -/

/-- The record of a resource: of two records with one id, the last one. -/
def recordOf? (records : List ResourceRecord) (id : UInt32) : Option ResourceRecord :=
  records.reverse.find? fun record => record.resourceId = id

theorem resourceId_of_recordOf? (h : recordOf? records id = some record) :
    record.resourceId = id := by
  simpa using List.find?_some h

theorem get?_recordTable (records : List ResourceRecord) (id : UInt32) :
    (recordTable records).get? id = recordOf? records id := by
  have hlast := Table.get?_foldl_insert (·.resourceId) (fun r : ResourceRecord => r) records {} id
  rw [Option.map_id'] at hlast
  exact hlast.trans Option.or_none

/-- The records that count, in the order of their ids. -/
theorem mem_inOrder_recordTable :
    record ∈ inOrder (recordTable records) ↔ recordOf? records record.resourceId = some record := by
  simp only [mem_inOrder, get?_recordTable]
  constructor
  · rintro ⟨id, h⟩
    rwa [resourceId_of_recordOf? h]
  · intro h
    exact ⟨_, h⟩

theorem pairwise_inOrder_recordTable (records : List ResourceRecord) :
    (inOrder (recordTable records)).Pairwise fun a b => a.resourceId < b.resourceId := by
  refine pairwise_inOrder ResourceRecord.resourceId fun id record hfound => ?_
  rw [get?_recordTable] at hfound
  exact resourceId_of_recordOf? hfound

/-- Putting the records in order leaves each resource its record. -/
theorem recordOf?_inOrder (records : List ResourceRecord) (id : UInt32) :
    recordOf? (inOrder (recordTable records)) id = recordOf? records id := by
  have hmem : ∀ record, record ∈ inOrder (recordTable records) ∧ record.resourceId = id ↔
      recordOf? records id = some record := by
    intro record
    rw [mem_inOrder_recordTable]
    constructor
    · rintro ⟨h, rfl⟩
      exact h
    · intro h
      have hid := resourceId_of_recordOf? h
      exact ⟨hid.symm ▸ h, hid⟩
  refine Option.ext fun record => ⟨fun h => ?_, fun h => ?_⟩
  · exact (hmem record).mp
      ⟨List.mem_reverse.mp (List.mem_of_find?_eq_some h), resourceId_of_recordOf? h⟩
  · obtain ⟨hin, hid⟩ := (hmem record).mpr h
    cases hfound : recordOf? (inOrder (recordTable records)) id with
    | none =>
      have hnone := List.find?_eq_none.mp hfound record (List.mem_reverse.mpr hin)
      simp [hid] at hnone
    | some other =>
      have hother := (hmem other).mp
        ⟨List.mem_reverse.mp (List.mem_of_find?_eq_some hfound), resourceId_of_recordOf? hfound⟩
      rw [← hother, h]

/-- The nodes that records make. -/
def nodesOf (records : List ResourceRecord) : Table UInt32 ResourceNode :=
  Hierarchy.nodes (inOrder (recordTable records))

end Registry

namespace Hierarchy

open Registry (recordOf? recordTable inOrder nodesOf)

variable {records : List ResourceRecord} {id : UInt32} {node : ResourceNode}

/-! ## Places -/

/-- Where the resource with an id stands, as the records say it. -/
inductive Placed (records : List ResourceRecord) (id : UInt32) : ResourceNode → Prop
  /-- Nothing on the device contains it, and its record proposes a name for it. -/
  | proposed {record : ResourceRecord} (hrecord : recordOf? records id = some record)
      (hroot : record.containerId = 0) (hname : record.proposedName ≠ "") :
      Placed records id ⟨record.proposedName, 0⟩
  /-- Its record has only its own part of the URI to offer. -/
  | own {record : ResourceRecord} (hrecord : recordOf? records id = some record)
      (hsub : record.containerId ≠ 0 ∨ record.proposedName = "") :
      Placed records id ⟨record.subUri, record.containerId⟩
  /-- It has no record.  Of the records that list it the one with the lowest id counts, and there
      the first listing. -/
  | listed {parent : UInt32} {record : ResourceRecord} {a : AdditionalResource}
      (hnone : recordOf? records id = none) (hrecord : recordOf? records parent = some record)
      (hfirst : record.additional.find? (fun a => a.resourceId = id) = some a)
      (hlowest : ∀ lower other, lower < parent → recordOf? records lower = some other →
        ∀ b ∈ other.additional, b.resourceId ≠ id) :
      Placed records id ⟨a.name, parent⟩

/-- The node that a record makes for its own resource. -/
def ownNode (record : ResourceRecord) : ResourceNode := ⟨segment record, record.containerId⟩

theorem placed_ownNode {record : ResourceRecord} (h : recordOf? records id = some record) :
    Placed records id (ownNode record) := by
  unfold ownNode segment ResourceRecord.isRoot
  split
  · rename_i hproposed
    simp only [decide_eq_true_eq] at hproposed
    rw [hproposed.1]
    exact .proposed h hproposed.1 hproposed.2
  · rename_i hsub
    simp only [decide_eq_true_eq, not_and_or, not_not] at hsub
    exact .own h hsub

theorem get?_ownNodes (records : List ResourceRecord) (id : UInt32) :
    (ownNodes records).get? id = (recordOf? records id).map ownNode := by
  exact (Table.get?_foldl_insert (·.resourceId) ownNode records {} id).trans Option.or_none

/-- The listing that a record has for the resource with an id: the first one. -/
def listing? (id : UInt32) (record : ResourceRecord) : Option ResourceNode :=
  (record.additional.find? fun a => a.resourceId = id).map fun a => ⟨a.name, record.resourceId⟩

theorem get?_nodes (records : List ResourceRecord) (id : UInt32) :
    (nodes records).get? id =
      ((recordOf? records id).map ownNode).or (records.findSome? (listing? id)) := by
  have hchildren : ∀ (rs : List ResourceRecord) (t : Table UInt32 ResourceNode),
      (rs.foldl (fun nodes r => r.additional.foldl (addChild r.resourceId) nodes) t).get? id =
        (t.get? id).or (rs.findSome? (listing? id)) := by
    intro rs
    induction rs with
    | nil => simp
    | cons r rest ih =>
      intro t
      have hfirst : (r.additional.foldl (addChild r.resourceId) t).get? id =
          (t.get? id).or (listing? id r) :=
        Table.get?_foldl_insertNew AdditionalResource.resourceId
          (fun a => ResourceNode.mk a.name r.resourceId) _ t id
      rw [List.foldl_cons, ih, hfirst, List.findSome?_cons, Option.or_assoc]
      cases listing? id r <;> rfl
  unfold nodes
  rw [hchildren, get?_ownNodes]

theorem listing?_eq_none {record : ResourceRecord} :
    listing? id record = none ↔ ∀ a ∈ record.additional, a.resourceId ≠ id := by
  simp [listing?]

/-- The nodes of the hierarchy are the places of the resources. -/
theorem nodes_iff : (nodesOf records).get? id = some node ↔ Placed records id node := by
  have hsorted := Registry.pairwise_inOrder_recordTable records
  unfold nodesOf
  rw [get?_nodes, Registry.recordOf?_inOrder]
  cases hown : recordOf? records id with
  | some record =>
    simp only [Option.map_some, Option.some_or, Option.some.injEq]
    constructor
    · rintro rfl
      exact placed_ownNode hown
    · intro h
      cases h with
      | proposed hrecord hroot hname =>
        cases hown.symm.trans hrecord
        simp [ownNode, segment, ResourceRecord.isRoot, hroot, hname]
      | own hrecord hsub =>
        cases hown.symm.trans hrecord
        rcases hsub with hsub | hsub <;> simp [ownNode, segment, ResourceRecord.isRoot, hsub]
      | listed hnone => cases hown.symm.trans hnone
  | none =>
    -- Before the record that lists the resource first stand exactly those with lower ids.
    simp only [Option.map_none, Option.none_or, List.findSome?_eq_some_iff]
    constructor
    · rintro ⟨before, record, after, hsplit, hlisting, hbefore⟩
      rw [hsplit, List.pairwise_append, List.pairwise_cons] at hsorted
      obtain ⟨a, hfirst, rfl⟩ := Option.map_eq_some_iff.mp hlisting
      have hmem : record ∈ inOrder (recordTable records) := by simp [hsplit]
      refine .listed hown (Registry.mem_inOrder_recordTable.mp hmem) hfirst ?_
      intro lower other hlt hother
      have hid := Registry.resourceId_of_recordOf? hother
      have hin : other ∈ before ++ record :: after :=
        hsplit ▸ Registry.mem_inOrder_recordTable.mpr (hid.symm ▸ hother)
      refine listing?_eq_none.mp (hbefore other ?_)
      subst hid
      rcases List.mem_append.mp hin with hin | hin
      · exact hin
      · rcases List.mem_cons.mp hin with rfl | hin
        · exact absurd hlt (UInt32.lt_irrefl _)
        · exact absurd (UInt32.lt_trans hlt (hsorted.2.1.1 other hin)) (UInt32.lt_irrefl _)
    · intro h
      cases h with
      | proposed hrecord => cases hown.symm.trans hrecord
      | own hrecord => cases hown.symm.trans hrecord
      | listed hnone hrecord hfirst hlowest =>
        rename_i parent record a
        have hid := Registry.resourceId_of_recordOf? hrecord
        subst hid
        obtain ⟨before, after, hsplit⟩ :=
          List.append_of_mem (Registry.mem_inOrder_recordTable.mpr hrecord)
        rw [hsplit, List.pairwise_append] at hsorted
        refine ⟨before, record, after, hsplit, ?_, fun other hother => ?_⟩
        · simp [listing?, hfirst]
        · have hlt := hsorted.2.2 other hother record List.mem_cons_self
          have hin : other ∈ inOrder (recordTable records) := by simp [hsplit, hother]
          exact listing?_eq_none.mpr
            (hlowest _ _ hlt (Registry.mem_inOrder_recordTable.mp hin))

end Hierarchy

namespace Registry

variable {records : List ResourceRecord} {operations : List OperationType} {id : UInt32}

/-! ## Resources -/

theorem entries_ofResources (resources : List Resource) :
    (ofResources resources).entries =
      resources.foldl (fun table resource => table.insert resource.resourceId resource) {} := by
  have hall : ∀ (rs : List Resource) (r : Registry), (rs.foldl insert r).entries =
      rs.foldl (fun table resource => table.insert resource.resourceId resource) r.entries := by
    intro rs
    induction rs with
    | nil => intro r; rfl
    | cons resource rest ih => intro r; exact ih _
  exact hall resources {}

theorem get?_ofResources (resources : List Resource) (id : UInt32) :
    (ofResources resources).get? id =
      resources.reverse.find? fun resource => resource.resourceId = id := by
  have hlast := Table.get?_foldl_insert Resource.resourceId (fun resource : Resource => resource)
    resources {} id
  rw [Option.map_id', ← entries_ofResources] at hlast
  exact hlast.trans Option.or_none

/-- A registry that is built from records has one resource for each node. -/
theorem get?_ofRecords (records : List ResourceRecord) (operations : List OperationType)
    (id : UInt32) :
    (ofRecords records operations).get? id =
      ((nodesOf records).get? id).map fun _ =>
        describe (recordTable records) (nodesOf records) operations id := by
  have hkey : id ∈ (ascending (nodesOf records).keys).reverse ↔
      ∃ node, (nodesOf records).get? id = some node := by
    rw [← Table.mem_keys_iff]
    simp [ascending]
  show (ofResources _).get? id = _
  rw [get?_ofResources, ← List.map_reverse, List.find?_map]
  show Option.map _ (List.find? (fun id' => decide (id' = id)) _) = _
  cases hfound : List.find? (fun id' => decide (id' = id)) _ with
  | some id' =>
    have hid : id' = id := by simpa using List.find?_some hfound
    subst hid
    obtain ⟨node, hnode⟩ := hkey.mp (List.mem_of_find?_eq_some hfound)
    rw [hnode]
    rfl
  | none =>
    have hmissing : id ∉ (ascending (nodesOf records).keys).reverse := fun hmem => by
      simpa using List.find?_eq_none.mp hfound id hmem
    cases hnode : (nodesOf records).get? id with
    | some node => exact absurd (hkey.mpr ⟨node, hnode⟩) hmissing
    | none => rfl

/-- The URI of a resource is found when the records say where it stands. -/
theorem uriOfId_ok_iff {uri : String} :
    (ofRecords records operations).uriOfId id = .ok uri ↔
      (∃ node, Hierarchy.Placed records id node) ∧ Hierarchy.uri (nodesOf records) id = uri := by
  simp only [← Hierarchy.nodes_iff]
  show found _ (((ofRecords records operations).get? id).map (·.uri)) = _ ↔ _
  rw [get?_ofRecords]
  cases (nodesOf records).get? id <;> simp [found, describe]

/-! ## The ids and classes of the resources -/

/-- The registry of records whose order, and that of the ids, is known. -/
theorem ofRecords_of_order {records sorted : List ResourceRecord} {ids : List UInt32}
    (hrecords : inOrder (recordTable records) = sorted)
    (hids : ascending (nodesOf records).keys = ids) (operations : List OperationType) :
    ofRecords records operations =
      { ofResources (ids.map (describe (recordTable records) (Hierarchy.nodes sorted) operations)) with
        records := recordTable records } := by
  subst hrecords hids
  rfl

/-- Whether each resource stands under its own id, and its schema is of the major class. -/
def Keyed (r : Registry) : Prop :=
  ∀ id resource, r.get? id = some resource →
    resource.resourceId = id ∧ resource.schemaClass = SchemaClass.major

theorem keyed_empty : ({} : Registry).Keyed := fun _ _ hfound => nomatch hfound

/-- A registry that is built from records is keyed. -/
theorem keyed_ofRecords (records : List ResourceRecord) (operations : List OperationType) :
    (ofRecords records operations).Keyed := by
  intro id resource hfound
  rw [get?_ofRecords, Option.map_eq_some_iff] at hfound
  obtain ⟨node, -, rfl⟩ := hfound
  exact ⟨rfl, rfl⟩

theorem keyed_reload (r : Registry) (payloads : List Bytes) (operations : List OperationType) :
    (r.reload payloads operations).2.Keyed := by
  unfold reload ofPayloads
  cases decodeRecords 0 payloads with
  | error e => exact keyed_empty
  | ok records => exact keyed_ofRecords records operations

variable {r : Registry}

/-- The operations of the resources make no difference to their ids and classes. -/
theorem Keyed.setOperations (h : r.Keyed) (operations : List OperationType) :
    (r.setOperations operations).Keyed := by
  intro id resource hfound
  have hmapped := Table.get?_mapValues r.entries
    (fun resource : Resource => { resource with operations }) id
  rw [show (r.entries.mapValues fun resource : Resource => { resource with operations }).get? id =
    some resource from hfound] at hmapped
  obtain ⟨old, hold, rfl⟩ := Option.map_eq_some_iff.mp hmapped.symm
  exact h id old hold

/-- The resources are in the order of their ids, and no two have the same one. -/
theorem Keyed.pairwise_resources (h : r.Keyed) :
    r.resources.Pairwise fun a b => a.resourceId < b.resourceId :=
  pairwise_inOrder Resource.resourceId fun id resource hfound => (h id resource hfound).1

theorem Keyed.key_eq (h : r.Keyed) {resource : Resource} (hmem : resource ∈ r.resources) :
    resource.key = ⟨resource.resourceId, SchemaClass.major⟩ := by
  obtain ⟨id, hfound⟩ := mem_resources.mp hmem
  exact congrArg (DictionaryKey.mk resource.resourceId) (h id resource hfound).2

end Registry

end DeviceEnablement
