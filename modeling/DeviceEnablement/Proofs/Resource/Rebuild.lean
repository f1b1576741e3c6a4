/-
  A registry depends on the records that it was built from, and on nothing else.

  A device may hand out its records in any order, hand them out again after a refresh, and name one
  resource in several of them.  The registry is put together from tables whose entries stand in the
  order in which they were put in, so it has to be seen that this order is lost on the way.

  1. `Decoded`, `FirstUndecodable`: what is read from payloads, and where reading stops.
     `decodeRecords_ok_iff` and `firstUndecodable_of_decodeRecords` say that this is what is
     returned.
  2. `inOrder_congr`, `ascending_keys_congr`, `schemaMap_congr`: what is listed from a table does
     not depend on the order of its entries.
  3. `ofRecords_congr`: records that leave each resource the same record make the same registry.
  4. `recordOf?_perm`: records of different resources may be given in any order.
  5. `reload_depends_on_records`: all of it, for what is read from payloads.
-/
import DeviceEnablement.Proofs.Json.Ordered
import DeviceEnablement.Proofs.Resource.Dump
import DeviceEnablement.Proofs.Resource.Uris
import Mathlib.Data.List.Perm.Basic

namespace DeviceEnablement

namespace Registry

variable {payloads : List Bytes} {records records' : List ResourceRecord}
  {operations : List OperationType}

/-! ## Payloads -/

/-- Whether these are the records in payloads, of which the empty ones have none. -/
def Decoded (payloads : List Bytes) (records : List ResourceRecord) : Prop :=
  List.Forall₂ (fun payload record => ResourceRecord.decode payload = .ok record)
    (payloads.filter (· ≠ [])) records

/-- Whether the payload at this place is the first one that is not empty and cannot be read, and
    this is why. -/
def FirstUndecodable (payloads : List Bytes) (index : Nat) (cause : MessageError) : Prop :=
  ∃ before payload after, payloads = before ++ payload :: after ∧ before.length = index ∧
    payload ≠ [] ∧ ResourceRecord.decode payload = .error cause ∧
    ∀ earlier ∈ before, earlier ≠ [] → ∃ record, ResourceRecord.decode earlier = .ok record

theorem decoded_cons_iff {payload : Bytes} (hnonempty : payload ≠ []) :
    Decoded (payload :: payloads) records ↔
      ∃ record later, ResourceRecord.decode payload = .ok record ∧ Decoded payloads later ∧
        records = record :: later := by
  have hkept : (payload :: payloads).filter (· ≠ []) = payload :: payloads.filter (· ≠ []) :=
    List.filter_cons_of_pos (by simpa using hnonempty)
  unfold Decoded
  rw [hkept]
  exact List.forall₂_cons_left_iff

theorem decodeRecords_cons {payload : Bytes} (hnonempty : payload ≠ []) (start : Nat)
    (rest : List Bytes) :
    decodeRecords start (payload :: rest) =
      match ResourceRecord.decode payload with
      | .ok record => (decodeRecords (start + 1) rest).map (record :: ·)
      | .error cause => .error (.badRecord start cause) := by
  cases payload with
  | nil => exact absurd rfl hnonempty
  | cons b bs => rfl

/-- Records are returned exactly when every payload that is not empty can be read. -/
theorem decodeRecords_ok_iff (start : Nat) :
    decodeRecords start payloads = .ok records ↔ Decoded payloads records := by
  induction payloads generalizing start records with
  | nil =>
    constructor
    · rintro ⟨⟩
      exact .nil
    · rintro ⟨⟩
      rfl
  | cons payload rest ih =>
    by_cases hempty : payload = []
    · subst hempty
      exact ih (start + 1)
    · rw [decoded_cons_iff hempty, decodeRecords_cons hempty]
      cases ResourceRecord.decode payload with
      | error cause => simp
      | ok record =>
        simp only [Except.ok.injEq, exists_and_left, exists_eq_left', ← ih (start + 1)]
        cases decodeRecords (start + 1) rest with
        | error e => simp [Except.map]
        | ok later => simp [Except.map, eq_comm]

theorem FirstUndecodable.cons {payload : Bytes} {index : Nat} {cause : MessageError}
    (hfirst : payload ≠ [] → ∃ record, ResourceRecord.decode payload = .ok record)
    (h : FirstUndecodable payloads index cause) :
    FirstUndecodable (payload :: payloads) (index + 1) cause := by
  obtain ⟨before, bad, after, rfl, rfl, hnonempty, hbad, hbefore⟩ := h
  exact ⟨payload :: before, bad, after, rfl, rfl, hnonempty, hbad,
    List.forall_mem_cons.mpr ⟨hfirst, hbefore⟩⟩

/-- The failure that is returned names the first payload that cannot be read. -/
theorem firstUndecodable_of_decodeRecords {start : Nat} {e : ModelError}
    (h : decodeRecords start payloads = .error e) :
    ∃ index cause, FirstUndecodable payloads index cause ∧
      e = .badRecord (start + index) cause := by
  induction payloads generalizing start with
  | nil => cases h
  | cons payload rest ih =>
    have hlater (hrest : decodeRecords (start + 1) rest = .error e)
        (hfirst : payload ≠ [] → ∃ record, ResourceRecord.decode payload = .ok record) :
        ∃ index cause, FirstUndecodable (payload :: rest) index cause ∧
          e = .badRecord (start + index) cause := by
      obtain ⟨index, cause, hbad, rfl⟩ := ih hrest
      have hplace : start + 1 + index = start + (index + 1) := by omega
      exact ⟨index + 1, cause, hbad.cons hfirst, by rw [hplace]⟩
    by_cases hempty : payload = []
    · subst hempty
      exact hlater h (absurd rfl)
    · rw [decodeRecords_cons hempty] at h
      cases hfirst : ResourceRecord.decode payload with
      | error cause =>
        rw [hfirst] at h
        cases h
        exact ⟨0, cause, ⟨[], payload, rest, rfl, rfl, hempty, hfirst,
          fun _ hmem => absurd hmem List.not_mem_nil⟩, rfl⟩
      | ok record =>
        rw [hfirst] at h
        refine hlater ?_ fun _ => ⟨record, hfirst⟩
        cases hrest : decodeRecords (start + 1) rest with
        | error e' =>
          rw [hrest] at h
          cases h
          rfl
        | ok later =>
          rw [hrest] at h
          cases h

/-! ## The order of entries -/

section

variable {α : Type} {table table' : Table UInt32 α}

/-- The values of a table come out the same in whatever order they were put in. -/
theorem inOrder_congr (h : ∀ id, table.get? id = table'.get? id) :
    inOrder table = inOrder table' :=
  inOrder_eq_of_perm ((Table.perm_entries h).trans (List.mergeSort_perm _ _).symm)
    (pairwise_entries table')

theorem ascending_keys_congr (h : ∀ id, table.get? id = table'.get? id) :
    ascending table.keys = ascending table'.keys :=
  ascending_eq_of_perm
    (((Table.perm_entries h).map Prod.fst).trans (List.mergeSort_perm _ _).symm)
    (pairwise_ascending table'.nodup)

end

/-- A number is told by its decimal text. -/
theorem toString_injective {m n : Nat} (h : toString m = toString n) : m = n := by
  have hback (n : Nat) : Nat.ofDigitChars 10 (toString n).toList 0 = n := by
    show Nat.ofDigitChars 10 n.repr.toList 0 = n
    rw [Nat.repr_eq_ofList_toDigits, String.toList_ofList, Nat.ofDigitChars_ten_toDigits]
  rw [← hback m, h, hback n]

/-- The schema map is the same in whatever order the records were put in. -/
theorem schemaMap_congr {r r' : Registry} (h : ∀ id, r.record? id = r'.record? id) :
    r.schemaMap = r'.schemaMap := by
  have hnames : ((r.records.entries.map fun e =>
      (toString e.1.toNat, schemaMapEntry e.2)).map Prod.fst).Nodup := by
    rw [List.map_map]
    refine List.pairwise_map.mpr ((List.pairwise_map.mp r.records.nodup).imp fun hne heq => ?_)
    exact hne (UInt32.toNat_inj.mp (toString_injective heq))
  have hsame := Json.sortMembers_perm ((Table.perm_entries h).map fun e =>
    (toString e.1.toNat, schemaMapEntry e.2)) hnames
  exact congrArg (fun members => Json.ofMembers [("Resources", .object members)]) hsame

/-! ## Records -/

theorem recordTable_congr (h : ∀ id, recordOf? records id = recordOf? records' id) (id : UInt32) :
    (recordTable records).get? id = (recordTable records').get? id := by
  rw [get?_recordTable, get?_recordTable, h]

/-- The place of a record among others makes no difference to the registry. -/
theorem ofRecords_congr (h : ∀ id, recordOf? records id = recordOf? records' id)
    (operations : List OperationType) :
    ofRecords records operations =
      { ofRecords records' operations with records := recordTable records } := by
  have hnodes : nodesOf records = nodesOf records' :=
    congrArg Hierarchy.nodes (inOrder_congr (recordTable_congr h))
  have hdescribe : describe (recordTable records) (nodesOf records) operations =
      describe (recordTable records') (nodesOf records') operations := by
    funext id
    unfold describe
    rw [recordTable_congr h, hnodes]
  have hresources : (ascending (nodesOf records).keys).map
      (describe (recordTable records) (nodesOf records) operations) =
      (ascending (nodesOf records').keys).map
        (describe (recordTable records') (nodesOf records') operations) := by
    rw [hdescribe, hnodes]
  exact congrArg
    (fun resources => { ofResources resources with records := recordTable records }) hresources

/-- Records of different resources may be given in any order. -/
theorem recordOf?_perm (h : records.Perm records')
    (hids : (records.map ResourceRecord.resourceId).Nodup) (id : UInt32) :
    recordOf? records id = recordOf? records' id := by
  have hfound (records : List ResourceRecord) (hids : (records.map ResourceRecord.resourceId).Nodup)
      (record : ResourceRecord) :
      recordOf? records id = some record ↔ record ∈ records ∧ record.resourceId = id := by
    have hreverse := (records.reverse_perm.map ResourceRecord.resourceId).nodup_iff.mpr hids
    rw [recordOf?, Table.find?_key_eq_some_iff ResourceRecord.resourceId hreverse, List.mem_reverse]
  refine Option.ext fun record => ?_
  rw [hfound records hids, hfound records' ((h.map _).nodup_iff.mp hids), h.mem_iff]

/-! ## Registries -/

/-- Whether nothing is found in a registry. -/
structure FindsNothing (r : Registry) : Prop where
  resources : r.resources = []
  get? : ∀ id, r.get? id = none
  getByUri : ∀ uri, r.getByUri uri = .error (.resourceNotFound uri)
  idOfUri : ∀ uri, r.idOfUri uri = .error (.resourceNotFound uri)
  getByClass : ∀ schemaClass,
    r.getByClass schemaClass = .error (.resourceNotFound s!"schema class {schemaClass}")
  uriOfId : ∀ id, r.uriOfId id = .error (.resourceNotFound s!"resource {id}")
  record? : ∀ id, r.record? id = none
  recordIds : r.recordIds = []

/-- Nothing is left in a registry that was emptied. -/
theorem findsNothing_reset (r : Registry) : r.reset.FindsNothing :=
  ⟨congrArg (List.map Prod.snd) List.mergeSort_nil, fun _ => rfl, fun _ => rfl, fun _ => rfl,
    fun _ => rfl, fun _ => rfl, fun _ => rfl, List.mergeSort_nil⟩

/-- Whether two registries give the same answers, also about their records. -/
structure Alike (r r' : Registry) : Prop extends SameAnswers r r' where
  size : r.size = r'.size
  isEmpty : r.isEmpty = r'.isEmpty
  record? : ∀ id, r.record? id = r'.record? id
  recordIds : r.recordIds = r'.recordIds
  schemaMap : r.schemaMap = r'.schemaMap

/-- Records that leave each resource the same record make registries that are alike. -/
theorem alike_ofRecords (h : ∀ id, recordOf? records id = recordOf? records' id)
    (operations : List OperationType) :
    (ofRecords records operations).Alike (ofRecords records' operations) := by
  have hsame := ofRecords_congr h operations
  constructor
  case toSameAnswers =>
    rw [hsame]
    exact ⟨rfl, fun _ => rfl, fun _ => rfl, fun _ => rfl, fun _ => rfl, fun _ => rfl, rfl, rfl⟩
  case size | isEmpty =>
    rw [hsame]
    rfl
  case record? => exact recordTable_congr h
  case recordIds => exact ascending_keys_congr (recordTable_congr h)
  case schemaMap => exact schemaMap_congr (recordTable_congr h)

theorem reload_of_decoded (h : Decoded payloads records) (r : Registry)
    (operations : List OperationType) :
    r.reload payloads operations = (.ok (), ofRecords records operations) := by
  unfold reload ofPayloads
  rw [(decodeRecords_ok_iff 0).mpr h]
  rfl

/-- Whether two registries, reloaded from payloads of their own, are alike afterwards. -/
def ReloadAlike (operations : List OperationType) (r r' : Registry)
    (payloads payloads' : List Bytes) : Prop :=
  ∃ built built', r.reload payloads operations = (.ok (), built) ∧
    r'.reload payloads' operations = (.ok (), built') ∧ built.Alike built'

/-- What a registry holds after it was reloaded depends on the records in the payloads alone: not on
    what it held before, nor on the order of the payloads, nor on records that others replace.  When
    a payload cannot be read, nothing is left. -/
theorem reload_depends_on_records (r r' : Registry) (payloads payloads' : List Bytes)
    (operations : List OperationType) :
    ((∃ records, Decoded payloads records ∧
        r.reload payloads operations = (.ok (), ofRecords records operations)) ∨
      ∃ index cause failed, FirstUndecodable payloads index cause ∧
        r.reload payloads operations = (.error (.badRecord index cause), failed) ∧
        failed.FindsNothing) ∧
    (∀ records records', Decoded payloads records → Decoded payloads' records' →
      (∀ id, recordOf? records id = recordOf? records' id) →
        ReloadAlike operations r r' payloads payloads') ∧
    ∀ records, Decoded payloads records → (records.map ResourceRecord.resourceId).Nodup →
      payloads.Perm payloads' → ReloadAlike operations r r' payloads payloads' := by
  have hlast {records records' : List ResourceRecord} (hdecoded : Decoded payloads records)
      (hdecoded' : Decoded payloads' records')
      (hsame : ∀ id, recordOf? records id = recordOf? records' id) :
      ReloadAlike operations r r' payloads payloads' :=
    ⟨_, _, reload_of_decoded hdecoded r operations, reload_of_decoded hdecoded' r' operations,
      alike_ofRecords hsame operations⟩
  refine ⟨?_, fun _ _ => hlast, fun records hdecoded hids hperm => ?_⟩
  · cases hresult : decodeRecords 0 payloads with
    | ok records =>
      have hdecoded := (decodeRecords_ok_iff 0).mp hresult
      exact .inl ⟨records, hdecoded, reload_of_decoded hdecoded r operations⟩
    | error e =>
      obtain ⟨index, cause, hbad, rfl⟩ := firstUndecodable_of_decodeRecords hresult
      refine .inr ⟨index, cause, r.reset, hbad, ?_, r.findsNothing_reset⟩
      unfold reload ofPayloads
      rw [hresult, Nat.zero_add]
      rfl
  · obtain ⟨records', hdecoded', hsame⟩ := List.perm_comp_forall₂ (hperm.symm.filter _) hdecoded
    exact hlast hdecoded hdecoded' (recordOf?_perm hsame.symm hids)

/-- The payload of a record that lists resource 9, its names of one letter. -/
def samplePayload (id letter : UInt8) : Bytes :=
  [id, 0, 0, 0, 0, 0, 0, 0, 0, 0, 0, 1, 0, letter, 1, 0, 9, 0, 0, 0, 1, 0, letter,
    255, 255, 255, 255, 0, 0, 0, 0, 0, 0, 0, 0, 0, 0]

theorem decode_samplePayload :
    ResourceRecord.decode (samplePayload 1 65) = .ok (sampleRecord 1 0 "" "A" [⟨9, "A"⟩]) ∧
      ResourceRecord.decode (samplePayload 2 66) = .ok (sampleRecord 2 0 "" "B" [⟨9, "B"⟩]) ∧
      ResourceRecord.decode (samplePayload 2 67) = .ok (sampleRecord 2 0 "" "C" [⟨9, "C"⟩]) :=
  ⟨rfl, rfl, rfl⟩

/-- Two of these records, the one of the resource with the higher id in front. -/
def swappedRecords : List ResourceRecord :=
  [sampleRecord 2 0 "" "B" [⟨9, "B"⟩], sampleRecord 1 0 "" "A" [⟨9, "A"⟩]]

theorem decoded_swappedRecords :
    Decoded [samplePayload 2 66, samplePayload 1 65, []] swappedRecords :=
  .cons decode_samplePayload.2.1 (.cons decode_samplePayload.1 .nil)

theorem inOrder_swappedRecords :
    inOrder (recordTable swappedRecords) = swappedRecords.reverse := by
  have hperm : (recordTable swappedRecords).entries.Perm
      [(1, sampleRecord 1 0 "" "A" [⟨9, "A"⟩]), (2, sampleRecord 2 0 "" "B" [⟨9, "B"⟩])] :=
    .swap _ _ []
  exact inOrder_eq_of_perm hperm (by decide)

/-- They describe three resources. -/
theorem ascending_swappedRecords : ascending (nodesOf swappedRecords).keys = [1, 2, 9] := by
  rw [nodesOf, inOrder_swappedRecords]
  exact ascending_eq_of_perm (by decide +kernel) (by decide)

/-- Two records that list the same resource, in either order, with an empty payload among them, and
    with a record in front that one of them replaces.  The resource is found below the first one. -/
theorem reload_sample_payloads :
    ReloadAlike [.read] {} namesakes [samplePayload 1 65, [], samplePayload 2 66]
        [samplePayload 2 66, samplePayload 1 65, []] ∧
      ReloadAlike [.read] {} namesakes [samplePayload 1 65, [], samplePayload 2 66]
        [samplePayload 2 67, samplePayload 2 66, samplePayload 1 65] ∧
      ∃ built, namesakes.reload [samplePayload 2 66, samplePayload 1 65, []] [.read] =
          (.ok (), built) ∧
        (built.getByUri "/redfish/v1/A/A/").map (fun found => (found.resourceId, found.operations)) =
          .ok (9, [.read]) := by
  obtain ⟨hfirst, hsecond, hreplaced⟩ := decode_samplePayload
  have hdecoded : Decoded [samplePayload 1 65, [], samplePayload 2 66]
      [sampleRecord 1 0 "" "A" [⟨9, "A"⟩], sampleRecord 2 0 "" "B" [⟨9, "B"⟩]] :=
    .cons hfirst (.cons hsecond .nil)
  have hdecoded' : Decoded [samplePayload 2 67, samplePayload 2 66, samplePayload 1 65]
      [sampleRecord 2 0 "" "C" [⟨9, "C"⟩], sampleRecord 2 0 "" "B" [⟨9, "B"⟩],
        sampleRecord 1 0 "" "A" [⟨9, "A"⟩]] :=
    .cons hreplaced (.cons hsecond (.cons hfirst .nil))
  refine ⟨?_, ?_, _, reload_of_decoded decoded_swappedRecords namesakes [.read], ?_⟩
  · obtain ⟨-, -, hany⟩ := reload_depends_on_records {} namesakes
      [samplePayload 1 65, [], samplePayload 2 66] [samplePayload 2 66, samplePayload 1 65, []]
      [.read]
    exact hany _ hdecoded (by decide) (by decide)
  · obtain ⟨-, hlast, -⟩ := reload_depends_on_records {} namesakes
      [samplePayload 1 65, [], samplePayload 2 66]
      [samplePayload 2 67, samplePayload 2 66, samplePayload 1 65] [.read]
    refine hlast _ _ hdecoded hdecoded' fun id => ?_
    by_cases hone : 1 = id
    · subst hone
      rfl
    · by_cases htwo : 2 = id
      · subst htwo
        rfl
      · simp [recordOf?, sampleRecord, hone, htwo]
  · rw [ofRecords_of_order inOrder_swappedRecords ascending_swappedRecords]
    decide +kernel

end Registry

end DeviceEnablement
