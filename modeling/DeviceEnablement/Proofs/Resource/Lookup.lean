/-
  What a look-up in a registry finds.

  A registry finds its resources under two more keys, the URI and the schema class.  Each has an
  index that leads to an id; the first resource with a key keeps it, but the last resource with an id
  replaces the others.

  1. `Points`: under a key stands the id of a resource with this key.  `Leads`: every resource has
     its key in the index, and every id in the index has a resource.
  2. `Leads` is kept by every resource that is put in (`Leads.insert`), `Points` only by one that has
     the key of the resource it replaces (`Points.insert`).
  3. `Consistent`: resources with one id have the same URI and the same schema class.
  4. `Obtained`: a registry in any of the ways in which there can be one.
  5. `lookups_agree`: the URI and the schema class of every resource can be looked up.  What is found
     has the URI or the class that was asked for, as long as the files that were loaded list
     consistent resources.  A file that lists one id twice leaves the keys of the first resource in
     the indices (`load_repeated_id`).
-/
import DeviceEnablement.Proofs.Resource.Dump

namespace DeviceEnablement

namespace Registry

/-! ## Indices -/

section Index

variable {κ : Type} [DecidableEq κ] {key : Resource → κ} {entries : Table UInt32 Resource}
  {index : Table κ UInt32}

/-- Whether under each key of an index stands the id of a resource with this key. -/
def Points (key : Resource → κ) (entries : Table UInt32 Resource) (index : Table κ UInt32) :
    Prop :=
  ∀ k id, index.get? k = some id → ∃ resource, entries.get? id = some resource ∧ key resource = k

/-- Whether the key of every resource is in an index, and every id in it is that of a resource. -/
structure Leads (key : Resource → κ) (entries : Table UInt32 Resource) (index : Table κ UInt32) :
    Prop where
  listed : ∀ id resource, entries.get? id = some resource →
    ∃ id', index.get? (key resource) = some id'
  known : ∀ k id, index.get? k = some id → ∃ resource, entries.get? id = some resource

theorem Leads.empty : Leads key {} {} where
  listed := fun _ _ h => nomatch h
  known := fun _ _ h => nomatch h

theorem Points.empty : Points key {} {} := fun _ _ h => nomatch h

/-- What stands under a key after a resource was put in: what was there before, or its id. -/
theorem of_get?_insertNew {index : Table κ UInt32} {k k' : κ} {id id' : UInt32}
    (h : (index.insertNew k id).get? k' = some id') :
    index.get? k' = some id' ∨ (k' = k ∧ id' = id) := by
  rw [Table.get?_insertNew] at h
  split at h
  · rename_i hk
    subst hk
    rcases hold : index.get? k' with _ | old
    · rw [hold] at h
      cases h
      exact Or.inr ⟨rfl, rfl⟩
    · rw [hold] at h
      exact Or.inl h
  · exact Or.inl h

/-- A key that is in an index stays there when a resource is put in. -/
theorem get?_insertNew_of_some {k k' : κ} {id id' : UInt32} (h : index.get? k' = some id') :
    (index.insertNew k id).get? k' = some id' := by
  rw [Table.get?_insertNew]
  split
  · rename_i hk
    rw [← hk, h]
    rfl
  · exact h

theorem Leads.insert (h : Leads key entries index) (resource : Resource) :
    Leads key (entries.insert resource.resourceId resource)
      (index.insertNew (key resource) resource.resourceId) where
  listed := by
    intro id other hother
    rcases Table.of_get?_insert hother with ⟨-, rfl⟩ | ⟨-, hold⟩
    · rw [Table.get?_insertNew, if_pos rfl]
      cases index.get? (key other) <;> exact ⟨_, rfl⟩
    · obtain ⟨id', hid'⟩ := h.listed id other hold
      exact ⟨id', get?_insertNew_of_some hid'⟩
  known := by
    intro k id hid
    rw [Table.get?_insert]
    split
    · exact ⟨_, rfl⟩
    · rename_i hne
      rcases of_get?_insertNew hid with hold | ⟨-, hnew⟩
      · exact h.known k id hold
      · exact absurd hnew hne

/-- A resource that has the key of the one it replaces leaves no stale key behind. -/
theorem Points.insert (h : Points key entries index) {resource : Resource}
    (hsame : ∀ old, entries.get? resource.resourceId = some old → key old = key resource) :
    Points key (entries.insert resource.resourceId resource)
      (index.insertNew (key resource) resource.resourceId) := by
  intro k id hid
  rcases of_get?_insertNew hid with hold | ⟨rfl, rfl⟩
  · obtain ⟨other, hother, rfl⟩ := h k id hold
    rw [Table.get?_insert]
    split
    · rename_i hreplaced
      subst hreplaced
      exact ⟨resource, rfl, (hsame other hother).symm⟩
    · exact ⟨other, hother, rfl⟩
  · rw [Table.get?_insert, if_pos rfl]
    exact ⟨resource, rfl, rfl⟩

/-- What leaves the key of a resource as it is leaves the index as good as it was. -/
theorem Leads.mapValues (h : Leads key entries index) {f : Resource → Resource}
    (hkey : ∀ resource, key (f resource) = key resource) :
    Leads key (entries.mapValues f) index where
  listed := by
    intro id resource hfound
    rw [Table.get?_mapValues, Option.map_eq_some_iff] at hfound
    obtain ⟨old, hold, rfl⟩ := hfound
    rw [hkey]
    exact h.listed id old hold
  known := by
    intro k id hid
    obtain ⟨resource, hresource⟩ := h.known k id hid
    rw [Table.get?_mapValues, hresource]
    exact ⟨_, rfl⟩

theorem Points.mapValues (h : Points key entries index) {f : Resource → Resource}
    (hkey : ∀ resource, key (f resource) = key resource) :
    Points key (entries.mapValues f) index := by
  intro k id hid
  obtain ⟨resource, hresource, rfl⟩ := h k id hid
  rw [Table.get?_mapValues, hresource]
  exact ⟨_, rfl, hkey resource⟩

end Index

variable {r : Registry} {resources : List Resource}

/-- The URI under which a resource is found. -/
def uriKey (resource : Resource) : String := Hierarchy.normalize resource.uri

/-- Whether every resource can be found by its URI and by its class. -/
def Reaches (r : Registry) : Prop :=
  Leads uriKey r.entries r.byUri ∧ Leads Resource.schemaClass r.entries r.byClass

/-- Whether what is found has the URI or the class it is found by. -/
def Accurate (r : Registry) : Prop :=
  Points uriKey r.entries r.byUri ∧ Points Resource.schemaClass r.entries r.byClass

/-! ## Building -/

/-- Whether two resources are found by the same keys. -/
def SameKeys (a b : Resource) : Prop := uriKey a = uriKey b ∧ a.schemaClass = b.schemaClass

/-- Whether resources with one id are found by the same keys. -/
def Consistent (resources : List Resource) : Prop :=
  ∀ a ∈ resources, ∀ b ∈ resources, a.resourceId = b.resourceId → SameKeys a b

theorem reaches_ofResources (resources : List Resource) : (ofResources resources).Reaches := by
  have hall : ∀ (rs : List Resource) (r : Registry), r.Reaches → (rs.foldl insert r).Reaches := by
    intro rs
    induction rs with
    | nil => exact fun r h => h
    | cons resource rest ih =>
      exact fun r h => ih _ ⟨h.1.insert resource, h.2.insert resource⟩
  exact hall resources {} ⟨.empty, .empty⟩

theorem accurate_ofResources (h : Consistent resources) : (ofResources resources).Accurate := by
  -- A resource replaces either one that was there at the start or one from the list.
  have hall : ∀ (rs : List Resource) (r : Registry), r.Accurate → Consistent rs →
      (∀ a ∈ rs, ∀ old, r.get? a.resourceId = some old → SameKeys old a) →
      (rs.foldl insert r).Accurate := by
    intro rs
    induction rs with
    | nil => exact fun r hr _ _ => hr
    | cons resource rest ih =>
      intro r hr hconsistent hold
      have hhere := hold resource List.mem_cons_self
      refine ih _ ⟨hr.1.insert fun old h => (hhere old h).1, hr.2.insert fun old h => (hhere old h).2⟩
        (fun a ha b hb => hconsistent a (List.mem_cons_of_mem _ ha) b (List.mem_cons_of_mem _ hb))
        fun a ha old hfound => ?_
      rcases Table.of_get?_insert hfound with ⟨hid, rfl⟩ | ⟨-, hbefore⟩
      · exact hconsistent old List.mem_cons_self a (List.mem_cons_of_mem _ ha) hid.symm
      · exact hold a (List.mem_cons_of_mem _ ha) old hbefore
  exact hall resources {} ⟨.empty, .empty⟩ h fun _ _ _ hfound => nomatch hfound

/-- Of the resources of records none has the id of another. -/
theorem consistent_describe (records : Table UInt32 ResourceRecord)
    (nodes : Table UInt32 ResourceNode) (operations : List OperationType) (ids : List UInt32) :
    Consistent (ids.map (describe records nodes operations)) := by
  intro a ha b hb hid
  obtain ⟨id, -, rfl⟩ := List.mem_map.mp ha
  obtain ⟨id', -, rfl⟩ := List.mem_map.mp hb
  cases (hid : id = id')
  exact ⟨rfl, rfl⟩

/-! ## Looking up -/

/-- The resources that the file under a name lists. -/
def listed? (folder : Folder) (name : String) : Option (List Resource) :=
  ((folder.fileAt? name).bind Bytes.text?).bind listedIn?

/-- A registry that is loaded has the resources that the file lists. -/
theorem load_ok {folder folder' : Folder} {name : String}
    (h : load folder name = (.ok r, folder')) :
    ∃ resources, listed? folder name = some resources ∧ r = ofResources resources := by
  unfold load at h
  split at h
  · rename_i content read hread
    split at h
    · rename_i registry hdump
      cases h
      obtain ⟨text, htext, hdump⟩ := Option.bind_eq_some_iff.mp hdump
      rw [ofDump?_eq] at hdump
      obtain ⟨resources, hresources, rfl⟩ := Option.map_eq_some_iff.mp hdump
      refine ⟨resources, ?_, rfl⟩
      rw [listed?, Folder.read_ok hread, Option.bind_some, htext, Option.bind_some, hresources]
    · cases h
  · cases h

/-- A registry in any of the ways in which there can be one.  The files that are loaded list only
    what is `allowed`. -/
inductive Obtained (allowed : List Resource → Prop) : Registry → Prop
  | built (records : List ResourceRecord) (operations : List OperationType) :
      Obtained allowed (ofRecords records operations)
  | reloaded (r : Registry) (payloads : List Bytes) (operations : List OperationType) :
      Obtained allowed (r.reload payloads operations).2
  | loaded {folder folder' : Folder} {name : String} {r : Registry}
      (hload : load folder name = (.ok r, folder'))
      (hallowed : ∀ resources, listed? folder name = some resources → allowed resources) :
      Obtained allowed r
  | changed {r : Registry} (h : Obtained allowed r) (operations : List OperationType) :
      Obtained allowed (r.setOperations operations)
  | emptied (r : Registry) : Obtained allowed r.reset

variable {allowed : List Resource → Prop}

/-- What holds of the registry of any resources that there can be, and whatever their operations
    are, holds of every registry. -/
theorem Obtained.induct {p : Registry → Prop} (h : Obtained allowed r)
    (hresources : ∀ resources records, allowed resources ∨ Consistent resources →
      p { ofResources resources with records })
    (hoperations : ∀ r operations, p r → p (r.setOperations operations)) : p r := by
  have hempty : p {} := hresources [] {} (Or.inr (fun _ h => nomatch h))
  have hbuilt : ∀ records operations, p (ofRecords records operations) := fun records operations =>
    hresources _ (recordTable records) (Or.inr (consistent_describe _ _ _ _))
  induction h with
  | built records operations => exact hbuilt records operations
  | reloaded r payloads operations =>
    unfold reload ofPayloads
    cases decodeRecords 0 payloads with
    | error e => exact hempty
    | ok records => exact hbuilt records operations
  | loaded hload hallowed =>
    obtain ⟨resources, hlisted, rfl⟩ := load_ok hload
    have hall := hresources resources {} (Or.inl (hallowed resources hlisted))
    rwa [← records_ofResources resources] at hall
  | changed _ operations ih => exact hoperations _ operations ih
  | emptied => exact hempty

theorem Obtained.reaches (h : Obtained allowed r) : r.Reaches := by
  refine h.induct (fun resources _ _ => reaches_ofResources resources) fun r operations hr => ?_
  exact ⟨hr.1.mapValues (f := fun resource => { resource with operations }) fun _ => rfl,
    hr.2.mapValues (f := fun resource => { resource with operations }) fun _ => rfl⟩

theorem Obtained.accurate (h : Obtained allowed r)
    (hallowed : ∀ resources, allowed resources → Consistent resources) : r.Accurate := by
  refine h.induct (fun resources _ hresources => ?_) fun r operations hr => ?_
  · exact accurate_ofResources (hresources.elim (hallowed resources) id)
  · exact ⟨hr.1.mapValues (f := fun resource => { resource with operations }) fun _ => rfl,
      hr.2.mapValues (f := fun resource => { resource with operations }) fun _ => rfl⟩

theorem found_ok_iff {α : Type} {description : String} {value : Option α} {a : α} :
    found description value = .ok a ↔ value = some a := by
  cases value <;> simp [found]

theorem getByUri_ok_iff {uri : String} {resource : Resource} :
    r.getByUri uri = .ok resource ↔
      ∃ id, r.byUri.get? (Hierarchy.normalize uri) = some id ∧
        r.entries.get? id = some resource := by
  unfold getByUri idOfUri
  cases r.byUri.get? (Hierarchy.normalize uri) with
  | none => simp [found]
  | some id =>
    simp only [found, Option.some.injEq, exists_eq_left']
    exact found_ok_iff

theorem getByClass_ok_iff {schemaClass : UInt8} {resource : Resource} :
    r.getByClass schemaClass = .ok resource ↔
      ∃ id, r.byClass.get? schemaClass = some id ∧ r.entries.get? id = some resource :=
  found_ok_iff.trans Option.bind_eq_some_iff

/-- The URI and the schema class of every resource are found.  What is found has the URI or the class
    that was asked for, unless a file that was loaded lists resources with one id and different URIs
    or classes. -/
theorem lookups_agree (h : Obtained allowed r) :
    (∀ resource ∈ r.resources, (∃ found, r.getByUri resource.uri = .ok found) ∧
      ∃ found, r.getByClass resource.schemaClass = .ok found) ∧
    ((∀ resources, allowed resources → Consistent resources) →
      (∀ uri found, r.getByUri uri = .ok found →
        Hierarchy.normalize found.uri = Hierarchy.normalize uri) ∧
      ∀ schemaClass found, r.getByClass schemaClass = .ok found →
        found.schemaClass = schemaClass) := by
  obtain ⟨huri, hclass⟩ := h.reaches
  refine ⟨fun resource hmem => ?_, fun hallowed => ?_⟩
  · obtain ⟨id, hresource⟩ := mem_resources.mp hmem
    obtain ⟨uriId, huriId⟩ := huri.listed id resource hresource
    obtain ⟨byUri, hbyUri⟩ := huri.known _ uriId huriId
    obtain ⟨classId, hclassId⟩ := hclass.listed id resource hresource
    obtain ⟨byClass, hbyClass⟩ := hclass.known _ classId hclassId
    exact ⟨⟨byUri, getByUri_ok_iff.mpr ⟨uriId, huriId, hbyUri⟩⟩,
      ⟨byClass, getByClass_ok_iff.mpr ⟨classId, hclassId, hbyClass⟩⟩⟩
  · obtain ⟨hpointsUri, hpointsClass⟩ := h.accurate hallowed
    refine ⟨fun uri found hfound => ?_, fun schemaClass found hfound => ?_⟩
    · obtain ⟨id, hid, hentry⟩ := getByUri_ok_iff.mp hfound
      obtain ⟨resource, hresource, hkey⟩ := hpointsUri _ id hid
      cases hentry.symm.trans hresource
      exact hkey
    · obtain ⟨id, hid, hentry⟩ := getByClass_ok_iff.mp hfound
      obtain ⟨resource, hresource, hkey⟩ := hpointsClass _ id hid
      cases hentry.symm.trans hresource
      exact hkey

/-- A folder with one file, which lists these resources. -/
def folderOf (resources : List Resource) : Folder where
  place := .listed [("registry.json",
    .file (Bytes.utf8 (Json.array (resources.map Resource.toJson)).pretty))]

/-- Two resources with one URI, of which the first one is listed twice. -/
def collision : List Resource :=
  [⟨1, "/redfish/v1/Fans/", 0, "Fan", "1.0.0.0", []⟩,
   ⟨2, "/redfish/v1/Fans", 3, "Fan", "1.0.0.0", []⟩,
   ⟨1, "/redfish/v1/Fans", 0, "Fan", "1.1.0.0", [.read]⟩]

theorem consistent_collision : Consistent collision := by
  show ∀ a ∈ collision, ∀ b ∈ collision, a.resourceId = b.resourceId →
    uriKey a = uriKey b ∧ a.schemaClass = b.schemaClass
  decide

/-- Both resources are loaded, and whatever the shared URI leads to has this URI. -/
theorem lookups_agree_collision :
    ∃ r folder', load (folderOf collision) "registry.json" = (.ok r, folder') ∧
      (∃ found, r.getByUri "/redfish/v1/Fans/" = .ok found ∧
        Hierarchy.normalize found.uri = Hierarchy.normalize "/redfish/v1/Fans/") ∧
      ∃ found, r.getByClass 3 = .ok found ∧ found.schemaClass = 3 := by
  have hlisted : listed? (folderOf collision) "registry.json" = some collision := by
    show ((some (Bytes.utf8 _)).bind Bytes.text?).bind listedIn? = _
    rw [Option.bind_some, Bytes.text?_utf8, Option.bind_some, listedIn?_pretty]
  have hload : load (folderOf collision) "registry.json" =
      (.ok (ofResources collision), ((folderOf collision).read "registry.json").2) :=
    load_pretty rfl
  obtain ⟨-, hagree⟩ := lookups_agree (.loaded hload fun resources hresources =>
    (Option.some.inj (hlisted.symm.trans hresources) ▸ consistent_collision : Consistent resources))
  obtain ⟨huri, hclass⟩ := hagree fun resources h => h
  exact ⟨_, _, hload, ⟨_, rfl, huri _ _ rfl⟩, _, rfl, hclass _ _ rfl⟩

/-- One id listed with two URIs and two classes. -/
def repeatedId : List Resource :=
  [⟨1, "/redfish/v1/A", 0, "A", "1.0.0.0", []⟩, ⟨1, "/redfish/v1/B", 1, "B", "1.0.0.0", []⟩]

/-- The file is loaded, and the URI and the class that are listed first lead to the resource that
    is listed last. -/
theorem load_repeated_id :
    ∃ r folder', load (folderOf repeatedId) "registry.json" = (.ok r, folder') ∧
      (∃ found, r.getByUri "/redfish/v1/A" = .ok found ∧
        Hierarchy.normalize found.uri ≠ Hierarchy.normalize "/redfish/v1/A") ∧
      ∃ found, r.getByClass 0 = .ok found ∧ found.schemaClass ≠ 0 := by
  refine ⟨_, _, load_pretty rfl, ⟨_, rfl, ?_⟩, _, rfl, ?_⟩
  · decide
  · decide

end Registry

end DeviceEnablement
