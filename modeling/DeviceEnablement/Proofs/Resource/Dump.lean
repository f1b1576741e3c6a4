/-
  A registry that is written to a file and read back.

  A dump lists the resources only.  Reading it puts them in again, in the order of their ids, and so
  has to come to the same choice wherever several resources claim one URI or one schema class.

  1. `Resource.ofRaw?_toJson`: a resource is read back from what is written of it.
  2. `Registry.listedIn?_pretty`: a list of resources is read back.  A dump is such a list, and is
     read as its resources, put in one after the other (`Registry.ofDump?_eq`).
  3. `Registry.Rebuilt`: that gives the registry again, but for the records.  A registry that is
     built from records is rebuilt (`rebuilt_ofRecords`), and other operations make no difference
     (`Rebuilt.setOperations`).
  4. `Registry.SameAnswers`: what can be asked of the registry that was read, besides the records.
  5. `Registry.load_save`: a registry that was built from records answers the same once it was saved
     and loaded.
-/
import DeviceEnablement.Proofs.Files.Folder
import DeviceEnablement.Proofs.Json.Pretty
import DeviceEnablement.Proofs.Resource.Places
import DeviceEnablement.Resource.Dump

namespace DeviceEnablement

/-! ## Resources -/

theorem OperationType.ofName?_name (operation : OperationType) :
    ofName? operation.name = some operation := by
  cases operation <;> rfl

namespace Resource

open Json (Integral)

theorem integral_toJson (resource : Resource) : Integral resource.toJson := by
  refine .object fun member hmember => ?_
  simp only [List.mem_cons, List.not_mem_nil, or_false] at hmember
  rcases hmember with rfl | rfl | rfl | rfl | rfl | rfl
  · exact .integer _
  · exact .string _
  · exact .integer _
  · exact .string _
  · exact .string _
  · refine .array fun item hitem => ?_
    obtain ⟨operation, -, rfl⟩ := List.mem_map.mp hitem
    exact .string _

theorem rawText?_raw (text : String) : rawText? (Json.string text).raw = some text :=
  Json.text?_pieces text

/-- A number that fits is read back. -/
theorem rawNat?_raw {max n : Nat} (hn : n ≤ max) (hmax : (max : Int) ≤ Json.maxUnsigned) :
    rawNat? max (Json.ofNat n).raw = some n := by
  have hnumber : (Json.Literal.ofInt n).number = .integer n :=
    Json.number_ofInt (by unfold Json.minSigned; omega) (by omega)
  show (Json.number (Json.Literal.ofInt n).number).natUpTo? max = some n
  rw [hnumber]
  show (if 0 ≤ (n : Int) ∧ (n : Int) ≤ max then some (n : Int).toNat else none) = some n
  rw [if_pos (by omega), Int.toNat_natCast]

theorem rawOperation?_raw (operation : OperationType) :
    rawOperation? operation.toJson.raw = some operation := by
  show (Json.text? (Json.pieces operation.name)).bind OperationType.ofName? = _
  rw [Json.text?_pieces]
  exact operation.ofName?_name

/-- What is read one by one is read as a list. -/
theorem mapM_map_eq_map {α β γ : Type} {f : β → Option γ} {g : α → β} {k : α → γ}
    (h : ∀ a, f (g a) = some (k a)) (as : List α) : (as.map g).mapM f = some (as.map k) := by
  induction as with
  | nil => rfl
  | cons a as ih =>
    rw [List.map_cons, List.mapM_cons, h, ih]
    rfl

theorem mapM_map_eq_some {α β : Type} {f : β → Option α} {g : α → β} (h : ∀ a, f (g a) = some a)
    (as : List α) : (as.map g).mapM f = some as := by
  rw [mapM_map_eq_map (k := id) h, List.map_id]

theorem rawOperations?_raw (operations : List OperationType) :
    rawOperations? (Json.array (operations.map OperationType.toJson)).raw = some operations := by
  show List.mapM rawOperation? (Json.rawItems (operations.map OperationType.toJson)) = _
  rw [Json.rawItems_eq_map, List.map_map]
  exact mapM_map_eq_some rawOperation?_raw operations

/-- The members of an object are told apart by their names. -/
theorem ofRaw?_object (members : List (String × Json)) :
    ofRaw? (Json.object members).raw =
      (fieldNames.mapM (onlyMember? (members.map fun member => (member.1, member.2.raw)))).bind
        ofValues? := by
  rw [Json.raw, ofRaw?, Json.rawMembers_eq_map,
    mapM_map_eq_map (k := fun member : String × Json => (member.1, member.2.raw))]
  · rfl
  · intro member
    simp only [Json.text?_pieces]
    rfl

/-- A resource is read back from what is written of it. -/
theorem ofRaw?_toJson (resource : Resource) : ofRaw? resource.toJson.raw = some resource := by
  have hid : rawNat? 4294967295 (Json.ofNat resource.resourceId.toNat).raw =
      some resource.resourceId.toNat :=
    rawNat?_raw (by have := resource.resourceId.toNat_lt; omega) (by decide)
  have hclass : rawNat? 255 (Json.ofNat resource.schemaClass.toNat).raw =
      some resource.schemaClass.toNat :=
    rawNat?_raw (by have := resource.schemaClass.toNat_lt; omega) (by decide)
  unfold toJson
  rw [ofRaw?_object]
  show ofValues? [_, _, _, _, _, _] = _
  simp only [ofValues?, hid, hclass, rawText?_raw, rawOperations?_raw]
  simp

end Resource

namespace Registry

variable {r : Registry} {resources : List Resource}

/-! ## Dumps -/

/-- The resources that a text lists. -/
def listedIn? (text : String) : Option (List Resource) :=
  match Json.Raw.ofText? text with
  | some (.array items) => items.mapM Resource.ofRaw?
  | _ => none

/-- A dump is read as the resources it lists, put in one after the other. -/
theorem ofDump?_eq (text : String) : ofDump? text = (listedIn? text).map ofResources := by
  unfold ofDump? listedIn?
  cases Json.Raw.ofText? text with
  | none => rfl
  | some raw => cases raw <;> rfl

/-- A list of resources is read back. -/
theorem listedIn?_pretty (resources : List Resource) :
    listedIn? (Json.array (resources.map Resource.toJson)).pretty = some resources := by
  have hintegral : Json.Integral (.array (resources.map Resource.toJson)) := by
    refine .array fun item hitem => ?_
    obtain ⟨resource, -, rfl⟩ := List.mem_map.mp hitem
    exact resource.integral_toJson
  unfold listedIn?
  rw [Json.Raw.ofText?_pretty hintegral, Json.raw, Json.rawItems_eq_map, List.map_map]
  exact Resource.mapM_map_eq_some (g := Json.raw ∘ Resource.toJson) Resource.ofRaw?_toJson resources

/-- Resources in the order of their ids, each id once, are listed as they were put in. -/
theorem resources_ofResources
    (h : resources.Pairwise fun a b => a.resourceId < b.resourceId) :
    (ofResources resources).resources = resources := by
  have hnodup : (resources.map (·.resourceId)).Nodup := by
    refine List.pairwise_map.mpr (h.imp fun hlt heq => ?_)
    rw [heq] at hlt
    exact UInt32.lt_irrefl _ hlt
  have hentries : (ofResources resources).entries.entries =
      resources.map fun resource => (resource.resourceId, resource) := by
    rw [entries_ofResources]
    exact Table.entries_foldl_insert _ (fun resource : Resource => resource)
      (fun resource _ => rfl) hnodup
  unfold Registry.resources inOrder
  rw [hentries, List.mergeSort_of_pairwise, List.map_map]
  · exact List.map_id' resources
  · refine List.pairwise_map.mpr (h.imp fun hlt => ?_)
    exact decide_eq_true (UInt32.le_of_lt hlt)

/-- Whether the resources that a registry lists make up the registry again, records aside. -/
def Rebuilt (r : Registry) : Prop := ofResources r.resources = { r with records := {} }

theorem records_ofResources (resources : List Resource) : (ofResources resources).records = {} := by
  have hall : ∀ (rs : List Resource) (r : Registry), (rs.foldl insert r).records = r.records := by
    intro rs
    induction rs with
    | nil => intro r; rfl
    | cons resource rest ih => intro r; exact ih _
  exact hall resources {}

/-- Resources that come in the order of their ids are put in again in the same order. -/
theorem rebuilt_ofResources (h : resources.Pairwise fun a b => a.resourceId < b.resourceId)
    (records : Table UInt32 ResourceRecord) :
    ({ ofResources resources with records } : Registry).Rebuilt := by
  show ofResources (ofResources resources).resources = { ofResources resources with records := {} }
  rw [resources_ofResources h, ← records_ofResources resources]

/-- The resources that records describe come in the order of their ids. -/
theorem pairwise_described (records : List ResourceRecord) (operations : List OperationType) :
    ((ascending (nodesOf records).keys).map
      (describe (recordTable records) (nodesOf records) operations)).Pairwise
        fun a b => a.resourceId < b.resourceId :=
  List.pairwise_map.mpr (pairwise_ascending (nodesOf records).nodup)

theorem rebuilt_ofRecords (records : List ResourceRecord) (operations : List OperationType) :
    (ofRecords records operations).Rebuilt :=
  rebuilt_ofResources (pairwise_described records operations) (recordTable records)

/-- They are listed in this order. -/
theorem map_resourceId_ofRecords (records : List ResourceRecord) (operations : List OperationType) :
    (ofRecords records operations).resources.map Resource.resourceId =
      ascending (nodesOf records).keys := by
  have hlisted : (ofRecords records operations).resources = (ascending (nodesOf records).keys).map
      (describe (recordTable records) (nodesOf records) operations) :=
    resources_ofResources (pairwise_described records operations)
  rw [hlisted, List.map_map]
  exact List.map_id' _

theorem resources_setOperations (r : Registry) (operations : List OperationType) :
    (r.setOperations operations).resources =
      r.resources.map fun resource => { resource with operations } := by
  unfold Registry.resources inOrder
  rw [List.map_map]
  show ((r.entries.entries.map fun e => (e.1, { e.2 with operations })).mergeSort _).map _ = _
  rw [← List.map_mergeSort (r := fun a b => decide (a.1 ≤ b.1)) (fun a _ b _ => rfl), List.map_map]
  rfl

/-- Which resource a URI or a schema class belongs to does not depend on operations. -/
theorem ofResources_map_operations (resources : List Resource) (operations : List OperationType) :
    ofResources (resources.map fun resource => { resource with operations }) =
      (ofResources resources).setOperations operations := by
  have hinsert : ∀ (r : Registry) (resource : Resource),
      (r.setOperations operations).insert { resource with operations } =
        (r.insert resource).setOperations operations := by
    intro r resource
    simp only [insert, setOperations, Table.mapValues_insert]
  have hall : ∀ (rs : List Resource) (r : Registry),
      (rs.map fun resource => { resource with operations }).foldl insert
        (r.setOperations operations) = (rs.foldl insert r).setOperations operations := by
    intro rs
    induction rs with
    | nil => intro r; rfl
    | cons resource rest ih =>
      intro r
      rw [List.map_cons, List.foldl_cons, hinsert, ih, List.foldl_cons]
  exact hall resources {}

/-- Other operations make no difference to how a registry is rebuilt. -/
theorem Rebuilt.setOperations (h : r.Rebuilt) (operations : List OperationType) :
    (r.setOperations operations).Rebuilt := by
  unfold Rebuilt at h ⊢
  rw [resources_setOperations, ofResources_map_operations, h]
  rfl

/-! ## Files -/

/-- Whether two registries give the same answers, records aside. -/
structure SameAnswers (r r' : Registry) : Prop where
  resources : r.resources = r'.resources
  get? : ∀ id, r.get? id = r'.get? id
  getByUri : ∀ uri, r.getByUri uri = r'.getByUri uri
  idOfUri : ∀ uri, r.idOfUri uri = r'.idOfUri uri
  getByClass : ∀ schemaClass, r.getByClass schemaClass = r'.getByClass schemaClass
  uriOfId : ∀ id, r.uriOfId id = r'.uriOfId id
  schemaInfo : r.schemaInfo = r'.schemaInfo
  supportedOperations : r.supportedOperations = r'.supportedOperations

/-- Only the records are missing from a registry that was rebuilt from its dump. -/
theorem Rebuilt.sameAnswers (h : r.Rebuilt) : (ofResources r.resources).SameAnswers r := by
  rw [h]
  exact ⟨rfl, fun _ => rfl, fun _ => rfl, fun _ => rfl, fun _ => rfl, fun _ => rfl, rfl, rfl⟩

variable {folder saved later later' : Folder} {name : String} {content : Bytes}

/-- What is in the file when a registry was saved. -/
theorem fileAt?_save (h : r.save folder name = (.ok (), saved)) :
    saved.fileAt? name = some (Bytes.utf8 r.dump) := by
  unfold save at h
  split at h
  · rename_i written hput
    cases h
    exact Folder.put_ok hput
  · cases h

/-- A file with a list of resources is loaded as these resources, put in one after the other. -/
theorem load_pretty (h : later.read name =
    (.ok (Bytes.utf8 (Json.array (resources.map Resource.toJson)).pretty), later')) :
    load later name = (.ok (ofResources resources), later') := by
  unfold load
  rw [h]
  dsimp only
  rw [Bytes.text?_utf8, Option.bind_some, ofDump?_eq, listedIn?_pretty, Option.map_some]

/-- The registry of any records, its operations changed any number of times. -/
inductive FromRecords : Registry → Prop
  | built (records : List ResourceRecord) (operations : List OperationType) :
      FromRecords (ofRecords records operations)
  | changed {r : Registry} (h : FromRecords r) (operations : List OperationType) :
      FromRecords (r.setOperations operations)

theorem FromRecords.rebuilt (h : FromRecords r) : r.Rebuilt := by
  induction h with
  | built records operations => exact rebuilt_ofRecords records operations
  | changed _ operations ih => exact ih.setOperations operations

/-- A registry that was built from records, then saved and loaded, answers as before.  What is read
    is what stood in the file when it was saved. -/
theorem load_save (hbuilt : FromRecords r) (hsave : r.save folder name = (.ok (), saved))
    (hread : later.read name = (.ok content, later')) (hsame : saved.fileAt? name = some content) :
    ∃ r', load later name = (.ok r', later') ∧ r'.SameAnswers r := by
  have hcontent : content = Bytes.utf8 r.dump :=
    Option.some.inj (hsame.symm.trans (fileAt?_save hsave))
  subst hcontent
  exact ⟨_, load_pretty hread, hbuilt.rebuilt.sameAnswers⟩

/-- A record whose texts have to be escaped. -/
def namesake (resourceId : UInt32) : ResourceRecord where
  resourceId
  flags := 0
  containerId := 0
  proposedName := ""
  subUri := "Fans \"\\\x01é"
  additional := []
  version := .unspecified
  dictionaryLength := 0
  dictionarySignature := 0
  schemaName := "Fan\n\t"
  oemNames := []

/-- Two resources with one URI, their operations changed twice. -/
def namesakes : Registry :=
  ((ofRecords [namesake 2, namesake 1] [.read]).setOperations []).setOperations [.head, .action]

/-- The two are saved in a new folder and loaded from there.  Under their URI the first one is
    found. -/
theorem load_save_namesakes :
    ∃ r', (load (namesakes.save {} "registry.json").2 "registry.json").1 = .ok r' ∧
      r'.SameAnswers namesakes ∧
      (r'.getByUri "/redfish/v1/Fans \"\\\x01é/").map
          (fun found => (found.resourceId, found.schemaName, found.operations)) =
        .ok (1, "Fan\n\t", [.head, .action]) := by
  have hbuilt : FromRecords namesakes := .changed (.changed (.built _ _) _) _
  have hsave : namesakes.save {} "registry.json" =
      (.ok (), (namesakes.save {} "registry.json").2) := rfl
  have hread : (namesakes.save {} "registry.json").2.read "registry.json" =
      (.ok (Bytes.utf8 namesakes.dump),
        ((namesakes.save {} "registry.json").2.read "registry.json").2) := rfl
  obtain ⟨r', hload, hsame⟩ := load_save hbuilt hsave hread rfl
  have hperm : (recordTable [namesake 2, namesake 1]).entries.Perm
      [(1, namesake 1), (2, namesake 2)] := .swap _ _ []
  have hrecords : inOrder (recordTable [namesake 2, namesake 1]) = [namesake 1, namesake 2] :=
    inOrder_eq_of_perm hperm (by decide)
  have hids : ascending (nodesOf [namesake 2, namesake 1]).keys = [1, 2] := by
    rw [nodesOf, hrecords]
    exact ascending_eq_of_perm (by decide +kernel) (by decide)
  refine ⟨r', congrArg Prod.fst hload, hsame, ?_⟩
  rw [hsame.getByUri, namesakes, ofRecords_of_order hrecords hids]
  decide +kernel

end Registry

end DeviceEnablement
