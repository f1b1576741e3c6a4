/-
  What is kept on disk.

  As long as no access fails, the folder of a store holds the complete dictionaries and nothing
  else.

  1. `Store.answer`, `Store.calls`: what a store makes of the calls about it.
  2. `Store.Mirrors`: the folder consists of the files of these dictionaries, which are those that
     are complete in memory.  Finishing a dictionary adds to them (`Mirrors.finish`), resetting
     takes away (`Mirrors.reset`), and all else leaves them as they are (`Mirrors.insert`); so
     every sequence of calls keeps the two sides together (`mirrors_calls`).
  3. `kept?`: the complete dictionary in the file with a name.  As long as no access fails, a
     reloading takes all of them, in the order in which the names are listed (`loadFiles_kept`).
  4. `Mirrors.reload`: a store that starts over with the same folder finds them all.
  5. `disk_mirrors_memory`: the same for the folders of several devices below one root.
-/
import DeviceEnablement.Proofs.Dictionary.Integrity
import DeviceEnablement.Proofs.Dictionary.Key
import DeviceEnablement.Proofs.Dictionary.Store
import DeviceEnablement.Proofs.Files.Steady
import DeviceEnablement.Proofs.Uuid

namespace DeviceEnablement

namespace Dictionary

/-- The entry of a dictionary in its folder. -/
def entry (d : Dictionary) : String × FolderEntry := (d.file, .file d.encode)

end Dictionary

/-! ## Calls -/

/-- A call that gathers dictionaries or discards them. -/
inductive StoreCall
  | addChunk (key : DictionaryKey) (payload : Bytes) (hasChecksum isFinal : Bool)
  | complete (key : DictionaryKey)
  | reset (key : DictionaryKey)

namespace Store

/-- What a call comes to. -/
def answer (s : Store) : StoreCall → Except StoreError Unit × Store
  | .addChunk key payload hasChecksum isFinal => s.addChunk key payload hasChecksum isFinal
  | .complete key => s.complete key
  | .reset key => s.reset key

/-- The store after some calls. -/
def calls (s : Store) (cs : List StoreCall) : Store := cs.foldl (fun s call => (s.answer call).2) s

variable {s : Store} {key : DictionaryKey} {d : Dictionary} {ds : List Dictionary}

theorem getComplete?_insert (s : Store) (d : Dictionary) (key : DictionaryKey) :
    (s.insert d).getComplete? key =
      if key = d.key then (some d).filter (·.complete) else s.getComplete? key := by
  unfold getComplete?
  rw [get?_insert]
  split <;> rfl

theorem getComplete?_reset (s : Store) (key other : DictionaryKey) :
    (s.reset key).2.getComplete? other = if other = key then none else s.getComplete? other := by
  unfold getComplete?
  rw [get?_reset]
  split <;> rfl

theorem finish_of_save {folder : Folder}
    (h : s.folder.save d.file d.markComplete.encode = (.ok (), folder)) :
    s.finish d = (.ok (), { s.insert d.markComplete with folder }) := by
  have hsave : (s.insert d.markComplete).folder.save d.markComplete.file d.markComplete.encode =
      (.ok (), folder) := h
  unfold finish save Dictionary.save
  rw [hsave]

theorem reset_of_discard {folder : Folder}
    (h : s.folder.discard ((s.get? key).getD (.new key key.fileName)).file = (.ok (), folder)) :
    s.reset key = (.ok (), { s with dictionaries := s.dictionaries.erase key, folder }) := by
  unfold reset Dictionary.removeFile
  dsimp only
  rw [h]

/-! ## Memory and disk -/

/-- Whether every dictionary in memory stands under its key and has the file of it. -/
def Named (s : Store) : Prop := ∀ key d, s.get? key = some d → d.key = key ∧ d.file = key.fileName

theorem Named.insert (h : s.Named) (hfile : d.file = d.key.fileName) : (s.insert d).Named := by
  intro key d' hget
  rw [get?_insert] at hget
  split at hget
  · rename_i hkey
    cases hget
    exact ⟨hkey.symm, hkey ▸ hfile⟩
  · exact h key d' hget

/-- What is appended to or removed has the file of its key. -/
theorem Named.getD (h : s.Named) (key : DictionaryKey) :
    ((s.get? key).getD (.new key key.fileName)).key = key ∧
      ((s.get? key).getD (.new key key.fileName)).file = key.fileName := by
  cases hget : s.get? key with
  | none => exact ⟨rfl, rfl⟩
  | some d => exact h key d hget

/-- Whether the folder consists of the files of these dictionaries, and they are the complete ones
    in memory. -/
structure Mirrors (s : Store) (ds : List Dictionary) : Prop where
  steady : s.folder.Steady
  named : s.Named
  listed : s.folder.Lists (ds.map Dictionary.entry)
  nodup : (ds.map Dictionary.key).Nodup
  mem_iff : ∀ {key d}, s.getComplete? key = some d ↔ d ∈ ds ∧ d.key = key

/-- An empty store with an empty folder. -/
theorem mirrors_nothing (uuid : Uuid) {folder : Folder} (hsteady : folder.Steady)
    (hempty : folder.Lists []) : Mirrors { uuid, folder } [] where
  steady := hsteady
  named := fun _ _ hget => nomatch hget
  listed := hempty
  nodup := List.nodup_nil
  mem_iff := ⟨(nomatch ·), fun h => absurd h.1 List.not_mem_nil⟩

namespace Mirrors

theorem of_mem (h : s.Mirrors ds) (hd : d ∈ ds) :
    s.getComplete? d.key = some d ∧ d.file = d.key.fileName ∧ d.complete = true := by
  have hcomplete := h.mem_iff.mpr ⟨hd, rfl⟩
  obtain ⟨hget, hflag⟩ := getComplete?_eq_some.mp hcomplete
  exact ⟨hcomplete, (h.named _ _ hget).2, hflag⟩

theorem names (h : s.Mirrors ds) :
    (ds.map Dictionary.entry).map Prod.fst =
      (ds.map Dictionary.key).map DictionaryKey.fileName := by
  rw [List.map_map, List.map_map]
  exact List.map_congr_left fun d hd => (h.of_mem hd).2.1

theorem nodup_names (h : s.Mirrors ds) : ((ds.map Dictionary.entry).map Prod.fst).Nodup := by
  rw [h.names]
  exact h.nodup.map fun _ _ => DictionaryKey.fileName_injective

/-- The file of a key is there exactly when its dictionary is complete. -/
theorem mem_names_iff (h : s.Mirrors ds) :
    key.fileName ∈ (ds.map Dictionary.entry).map Prod.fst ↔ ∃ d, s.getComplete? key = some d := by
  rw [h.names]
  simp only [List.mem_map, h.mem_iff]
  constructor
  · rintro ⟨_, ⟨d, hd, rfl⟩, hname⟩
    exact ⟨d, hd, DictionaryKey.fileName_injective hname⟩
  · rintro ⟨d, hd, rfl⟩
    exact ⟨_, ⟨d, hd, rfl⟩, rfl⟩

/-- A file beside another one is no file of a dictionary. -/
theorem temporary_not_mem (h : s.Mirrors ds) (name : String) :
    Folder.temporary name ∉ (ds.map Dictionary.entry).map Prod.fst := by
  rw [h.names, List.mem_map]
  rintro ⟨key, -, hname⟩
  exact key.fileName_ne_temporary name hname

/-! ## Steps -/

/-- What is put in leaves the complete dictionaries as they are. -/
theorem insert (h : s.Mirrors ds) (hfile : d.file = d.key.fileName)
    (hsame : (some d).filter (·.complete) = s.getComplete? d.key) : (s.insert d).Mirrors ds where
  steady := h.steady
  named := h.named.insert hfile
  listed := h.listed
  nodup := h.nodup
  mem_iff := by
    intro key d'
    rw [← h.mem_iff, getComplete?_insert]
    split
    · rename_i hkey
      rw [hsame, hkey]
    · exact Iff.rfl

/-- A dictionary that was not complete before is one more. -/
theorem mem_append_iff (h : s.Mirrors ds) (hcomplete : d.complete = true)
    (hnew : s.getComplete? d.key = none) {d' : Dictionary} :
    (s.insert d).getComplete? key = some d' ↔ d' ∈ ds ++ [d] ∧ d'.key = key := by
  rw [getComplete?_insert, List.mem_append, List.mem_singleton, or_and_right, ← h.mem_iff]
  by_cases hkey : key = d.key
  · subst hkey
    rw [if_pos rfl, hnew, Option.filter_some, if_pos hcomplete]
    constructor
    · intro heq
      cases heq
      exact Or.inr ⟨rfl, rfl⟩
    · rintro (hnone | ⟨rfl, -⟩)
      · cases hnone
      · rfl
  · rw [if_neg hkey]
    refine (or_iff_left ?_).symm
    rintro ⟨rfl, rfl⟩
    exact hkey rfl

/-- One more dictionary is complete, and its file is there. -/
theorem finish (h : s.Mirrors ds) (hfile : d.file = d.key.fileName)
    (hnew : s.getComplete? d.key = none) :
    (s.finish d).1 = .ok () ∧ (s.finish d).2.Mirrors (ds ++ [d.markComplete]) := by
  -- The key has no file yet, since it has no complete dictionary, and the file beside it is none
  -- of a dictionary.
  have hname : d.file ∉ (ds.map Dictionary.entry).map Prod.fst := by
    rw [hfile, h.mem_names_iff, hnew]
    rintro ⟨_, hfound⟩
    cases hfound
  have hne : d.file ≠ Folder.temporary d.file := hfile ▸ d.key.fileName_ne_temporary _
  obtain ⟨folder, hsave, hsteady, hlisted⟩ := h.steady.save d.markComplete.encode
    h.listed hname (h.temporary_not_mem _) hne
  have hfresh : d.key ∉ ds.map Dictionary.key := by
    intro hmem
    obtain ⟨d', hd', hkey⟩ := List.mem_map.mp hmem
    have hfound := (h.of_mem hd').1
    rw [hkey, hnew] at hfound
    cases hfound
  rw [finish_of_save hsave]
  exact ⟨rfl, {
    steady := hsteady
    named := h.named.insert (d := d.markComplete) hfile
    listed := by
      rw [List.map_append]
      exact hlisted
    nodup := by
      rw [List.map_append]
      exact h.nodup.append (List.nodup_singleton _) (List.disjoint_singleton.mpr hfresh)
    mem_iff := h.mem_append_iff (d := d.markComplete) rfl hnew }⟩

/-- A key is discarded on both sides. -/
theorem reset (h : s.Mirrors ds) (key : DictionaryKey) :
    (s.reset key).1 = .ok () ∧ (s.reset key).2.Mirrors (ds.filter fun d => d.key ≠ key) := by
  have hfile := (h.named.getD key).2
  -- Names of files tell keys apart, so that the file which is taken out is this one and no other.
  have hentries : Folder.unbind key.fileName (ds.map Dictionary.entry) =
      (ds.filter fun d => d.key ≠ key).map Dictionary.entry := by
    unfold Folder.unbind
    rw [List.filter_map]
    refine congrArg (List.map Dictionary.entry) (List.filter_congr fun d hd => ?_)
    have hname : d.file = key.fileName ↔ d.key = key := by
      rw [(h.of_mem hd).2.1]
      exact ⟨DictionaryKey.fileName_injective, congrArg DictionaryKey.fileName⟩
    exact decide_eq_decide.mpr (not_congr hname)
  obtain ⟨folder, hdiscard, hsteady, hlisted⟩ := h.steady.discard key.fileName h.listed
    fun entry hfound => by
      obtain ⟨d, -, hd⟩ := List.mem_map.mp ((Folder.find?_eq_some_iff h.nodup_names).mp hfound)
      exact ⟨d.encode, (congrArg Prod.snd hd).symm⟩
  rw [← hfile] at hdiscard
  have hreset := reset_of_discard hdiscard
  have hlook := s.getComplete?_reset key
  rw [hreset] at hlook ⊢
  exact ⟨rfl, {
    steady := hsteady
    named := by
      intro other d hget
      exact h.named _ _ (Table.of_get?_erase hget).2
    listed := hentries ▸ hlisted
    nodup := h.nodup.sublist (List.filter_sublist.map _)
    mem_iff := by
      intro other d
      rw [hlook, List.mem_filter, decide_eq_true_iff]
      split
      · rename_i hother
        subst hother
        exact ⟨(nomatch ·), fun hd => absurd hd.2 hd.1.2⟩
      · rename_i hother
        rw [h.mem_iff]
        exact ⟨fun hd => ⟨⟨hd.1, fun hkey => hother (hd.2.symm.trans hkey)⟩, hd.2⟩,
          fun hd => ⟨hd.1.1, hd.2⟩⟩ }⟩

/-- A chunk leaves the two sides together. -/
theorem addChunk (h : s.Mirrors ds) (key : DictionaryKey) (payload : Bytes)
    (hasChecksum isFinal : Bool) :
    ∃ ds', (s.addChunk key payload hasChecksum isFinal).2.Mirrors ds' := by
  obtain ⟨hkey, hfile⟩ := h.named.getD key
  have hfilter : ((some ((s.get? key).getD (.new key key.fileName))).filter (·.complete)) =
      s.getComplete? key := by
    unfold getComplete?
    cases s.get? key <;> rfl
  unfold Store.addChunk
  dsimp only
  generalize (s.get? key).getD (.new key key.fileName) = d at hkey hfile hfilter
  subst hkey
  split
  · exact ⟨ds, h⟩
  · -- What is complete takes nothing more; what is partial has no file, and gets one at the end.
    by_cases hcomplete : d.complete = true
    · have hfull : d.append (chunkContent payload hasChecksum) = .error (.complete d.key) :=
        if_pos hcomplete
      rw [hfull]
      exact ⟨ds, h.insert hfile hfilter⟩
    · have happend : d.append (chunkContent payload hasChecksum) =
          .ok { d with data := d.data ++ chunkContent payload hasChecksum } := if_neg hcomplete
      have hnone : s.getComplete? d.key = none := by
        rw [← hfilter, Option.filter_some, if_neg hcomplete]
      rw [happend]
      generalize d.data ++ chunkContent payload hasChecksum = data
      cases isFinal with
      | true => exact ⟨_, (h.finish (d := { d with data }) hfile hnone).2⟩
      | false =>
        exact ⟨ds, h.insert (d := { d with data }) hfile ((if_neg hcomplete).trans hnone.symm)⟩

/-- Completing a dictionary leaves the two sides together. -/
theorem complete (h : s.Mirrors ds) (key : DictionaryKey) :
    ∃ ds', (s.complete key).2.Mirrors ds' := by
  unfold Store.complete
  cases hget : s.get? key with
  | none => exact ⟨ds, h⟩
  | some d =>
    dsimp only
    split
    · rename_i hpartial
      obtain ⟨hkey, hfile⟩ := h.named _ _ hget
      subst hkey
      have hnone : s.getComplete? d.key = none := by
        unfold getComplete?
        rw [hget, Option.filter_some, if_neg]
        rw [Bool.and_eq_true, Bool.not_eq_true'] at hpartial
        rw [(Bool.not_eq_true' _).mp hpartial.2]
        exact Bool.false_ne_true
      exact ⟨_, (h.finish hfile hnone).2⟩
    · exact ⟨ds, h⟩

end Mirrors

/-- Every sequence of calls keeps memory and disk together. -/
theorem mirrors_calls (cs : List StoreCall) (h : s.Mirrors ds) :
    ∃ ds', (s.calls cs).Mirrors ds' := by
  induction cs generalizing s ds with
  | nil => exact ⟨ds, h⟩
  | cons call rest ih =>
    have hstep : ∃ ds', (s.answer call).2.Mirrors ds' := by
      cases call with
      | addChunk key payload hasChecksum isFinal => exact h.addChunk key payload hasChecksum isFinal
      | complete key => exact h.complete key
      | reset key => exact ⟨_, (h.reset key).2⟩
    obtain ⟨ds', h'⟩ := hstep
    exact ih h'

/-- A call is one about the dictionaries of the same device. -/
theorem uuid_calls (cs : List StoreCall) (s : Store) : (s.calls cs).uuid = s.uuid := by
  induction cs generalizing s with
  | nil => rfl
  | cons call rest ih =>
    refine (ih _).trans ?_
    cases call with
    | addChunk key payload hasChecksum isFinal =>
      show (s.addChunk key payload hasChecksum isFinal).2.uuid = s.uuid
      unfold addChunk
      dsimp only
      repeat' split
      all_goals rfl
    | complete key =>
      show (s.complete key).2.uuid = s.uuid
      unfold complete
      repeat' split
      all_goals rfl
    | reset key => rfl

/-! ## Starting over -/

/-- A table into which these dictionaries are put, one after the other. -/
def gather (t : Table DictionaryKey Dictionary) (ds : List Dictionary) :
    Table DictionaryKey Dictionary :=
  ds.foldl (fun t d => t.insert d.key d) t

theorem gather_append (t : Table DictionaryKey Dictionary) (ds ds' : List Dictionary) :
    gather t (ds ++ ds') = gather (gather t ds) ds' := List.foldl_append

theorem get?_gather (hnodup : (ds.map Dictionary.key).Nodup) (t : Table DictionaryKey Dictionary) :
    (gather t ds).get? key = some d ↔
      (d ∈ ds ∧ d.key = key) ∨ (key ∉ ds.map Dictionary.key ∧ t.get? key = some d) := by
  induction ds generalizing t with
  | nil => exact ⟨fun h => Or.inr ⟨List.not_mem_nil, h⟩, fun h => h.elim (nomatch ·.1) And.right⟩
  | cons first rest ih =>
    rw [List.map_cons, List.nodup_cons] at hnodup
    refine (ih hnodup.2 (t.insert first.key first)).trans ?_
    rw [Table.get?_insert, List.map_cons, List.mem_cons, List.mem_cons, or_and_right, not_or]
    by_cases hkey : key = first.key
    · subst hkey
      rw [if_pos rfl, and_iff_right hnodup.1, Option.some.injEq, or_comm, eq_comm]
      simp only [not_true_eq_false, false_and, or_false]
      exact or_congr_left ⟨fun h => ⟨h, congrArg Dictionary.key h⟩, And.left⟩
    · rw [if_neg hkey, and_iff_right hkey]
      refine (or_congr_left (or_iff_right ?_)).symm
      rintro ⟨rfl, rfl⟩
      exact hkey rfl

/-- The complete dictionary in the file with a name. -/
def kept? (folder : Folder) (name : String) : Option Dictionary :=
  if isDictionaryFile name then
    match (folder.fileAt? name).map (Dictionary.decode name) with
    | some (.ok d) => (some d).filter (·.complete)
    | _ => none
  else none

theorem kept?_congr {folder folder' : Folder}
    (h : ∀ name, folder'.fileAt? name = folder.fileAt? name) : kept? folder' = kept? folder := by
  funext name
  unfold kept?
  rw [h]

/-- What is taken from a file when no access fails. -/
theorem loadFile_kept (hsteady : s.folder.Steady) (loaded : Nat) (name : String) :
    ∃ folder, folder.Steady ∧ folder.place = s.folder.place ∧
      loadFile s loaded name = (loaded + (kept? s.folder name).toList.length,
        { s with dictionaries := gather s.dictionaries (kept? s.folder name).toList, folder }) := by
  unfold loadFile kept? Dictionary.load
  by_cases hname : isDictionaryFile name = true
  · rw [if_pos hname, if_pos hname]
    cases hfile : s.folder.fileAt? name with
    | none =>
      obtain ⟨e, folder, hread, hsteady', hplace⟩ := hsteady.read_missing hfile
      rw [hread]
      exact ⟨folder, hsteady', hplace, rfl⟩
    | some content =>
      obtain ⟨folder, hread, hsteady', hplace⟩ := hsteady.read hfile
      rw [hread, Option.map_some]
      refine ⟨folder, hsteady', hplace, ?_⟩
      dsimp only
      cases Dictionary.decode name content with
      | error e => rfl
      | ok d => cases hcomplete : d.complete <;> simp [hcomplete, gather, insert, Option.filter]
  · rw [if_neg hname, if_neg hname]
    exact ⟨s.folder, hsteady, rfl, rfl⟩

/-- As long as no access fails, every complete dictionary is taken, in the order of the names. -/
theorem loadFiles_kept (hsteady : s.folder.Steady) (names : List String) (loaded : Nat) :
    let ds := names.filterMap (kept? s.folder)
    ∃ folder, loadFiles s loaded names =
      (.ok (loaded + ds.length), { s with dictionaries := gather s.dictionaries ds, folder }) := by
  -- A reading leaves the files in place, but not the folder as it is: accesses are counted.
  induction names generalizing s loaded with
  | nil =>
    obtain ⟨folder, hadvance, -⟩ := hsteady.advance
    unfold loadFiles
    rw [hadvance]
    exact ⟨folder, rfl⟩
  | cons name rest ih =>
    obtain ⟨advanced, hadvance, hadvanced, hstays⟩ := hsteady.advance
    obtain ⟨folder, hsteady', hplace, hload⟩ :=
      loadFile_kept (s := { s with folder := advanced }) hadvanced loaded name
    have hname : kept? advanced name = kept? s.folder name :=
      congrFun (kept?_congr (Folder.fileAt?_congr hstays)) name
    have hrest : kept? folder = kept? s.folder :=
      kept?_congr (Folder.fileAt?_congr (hplace.trans hstays))
    obtain ⟨folder', hloaded⟩ := ih (s := { s with
      dictionaries := gather s.dictionaries (kept? s.folder name).toList, folder }) hsteady'
      (loaded + (kept? s.folder name).toList.length)
    have hds : (name :: rest).filterMap (kept? s.folder) =
        (kept? s.folder name).toList ++ rest.filterMap (kept? s.folder) := by
      rw [List.filterMap_cons]
      cases kept? s.folder name <;> rfl
    refine ⟨folder', ?_⟩
    unfold loadFiles
    rw [hadvance, hds, List.length_append, ← Nat.add_assoc, gather_append]
    dsimp only at hload hloaded ⊢
    rw [hload, hname]
    dsimp only
    rw [hloaded, hrest]

/-- The dictionary in the file of a complete one is that one. -/
theorem kept?_encode {folder : Folder} (hname : isDictionaryFile d.file = true)
    (hfile : folder.fileAt? d.file = some d.encode) (hcomplete : d.complete = true)
    (hlength : d.data.length < 2 ^ 32) : kept? folder d.file = some d := by
  unfold kept?
  rw [if_pos hname, hfile, Option.map_some, Dictionary.decode_encode hlength d.file]
  show Option.filter (·.complete) (some d) = some d
  simp [Option.filter, hcomplete]

namespace Mirrors

/-- The file of a complete dictionary is found. -/
theorem fileAt?_eq (h : s.Mirrors ds) (hd : d ∈ ds) :
    s.folder.fileAt? d.file = some d.encode :=
  (Folder.fileAt?_iff h.listed h.nodup_names).mpr (List.mem_map_of_mem (f := Dictionary.entry) hd)

/-- The keys whose dictionaries are complete are those of the files. -/
theorem length_complete (h : s.Mirrors ds) :
    (s.keys.filter s.containsComplete).length = ds.length := by
  have hkeys : s.keys.Nodup :=
    (List.mergeSort_perm s.dictionaries.keys DictionaryKey.le).nodup_iff.mpr s.dictionaries.nodup
  have hperm : (s.keys.filter s.containsComplete).Perm (ds.map Dictionary.key) := by
    refine (List.perm_ext_iff_of_nodup (hkeys.filter _) h.nodup).mpr fun key => ?_
    unfold keys
    rw [List.mem_filter, List.mem_mergeSort, Table.mem_keys_iff, containsComplete_iff, List.mem_map]
    constructor
    · rintro ⟨-, d, hget, hcomplete⟩
      exact ⟨d, h.mem_iff.mp (getComplete?_eq_some.mpr ⟨hget, hcomplete⟩)⟩
    · rintro ⟨d, hd⟩
      obtain ⟨hget, hcomplete⟩ := getComplete?_eq_some.mp (h.mem_iff.mpr hd)
      exact ⟨⟨d, hget⟩, d, hget, hcomplete⟩
  rw [hperm.length_eq, List.length_map]

/-- The files hold these dictionaries. -/
theorem filterMap_kept (h : s.Mirrors ds) (hlength : ∀ d ∈ ds, d.data.length < 2 ^ 32) :
    (ds.map Dictionary.file).filterMap (kept? s.folder) = ds := by
  have hkept : ∀ d ∈ ds, kept? s.folder d.file = some d := by
    intro d hd
    obtain ⟨-, hfile, hcomplete⟩ := h.of_mem hd
    have hname : isDictionaryFile d.file = true := by
      rw [hfile]
      exact d.key.isDictionaryFile_fileName
    exact kept?_encode hname (h.fileAt?_eq hd) hcomplete (hlength d hd)
  rw [List.filterMap_map]
  exact (List.filterMap_congr hkept).trans List.filterMap_some

/-- A store that starts over with the folder finds the complete dictionaries, and nothing else. -/
theorem reload (h : s.Mirrors ds) (hlength : ∀ d ∈ ds, d.data.length < 2 ^ 32) (uuid : Uuid) :
    ∃ s', loadPersisted { uuid, folder := s.folder } = (.ok ds.length, s') ∧
      ∀ key, s'.get? key = s.getComplete? key := by
  obtain ⟨folder, hsteady, hplace, hlist⟩ := h.steady.list h.listed
  have hnames : (ds.map Dictionary.entry).map Prod.fst = ds.map Dictionary.file := by
    rw [List.map_map]
    rfl
  have hget : ∀ key, (gather {} ds).get? key = s.getComplete? key := by
    intro key
    refine Option.ext fun d => ?_
    rw [get?_gather h.nodup, h.mem_iff]
    exact or_iff_left fun hnothing => nomatch hnothing.2
  unfold loadPersisted
  dsimp only
  rcases hlist with hlist | ⟨hlist, hnothing⟩
  · obtain ⟨folder', hloaded⟩ :=
      loadFiles_kept (s := { uuid, folder }) hsteady (ds.map Dictionary.file) 0
    dsimp only at hloaded
    rw [kept?_congr (Folder.fileAt?_congr hplace), h.filterMap_kept hlength, Nat.zero_add] at hloaded
    refine ⟨{ uuid, dictionaries := gather {} ds, folder := folder' }, ?_, hget⟩
    rw [hlist]
    dsimp only
    rw [hnames, hloaded]
  · rw [List.map_eq_nil_iff.mp hnothing] at hget ⊢
    refine ⟨{ uuid, folder }, ?_, hget⟩
    rw [hlist]
    rfl

end Mirrors

end Store

/-! ## Several devices -/

/-- The folders below the root of all devices, by their names. -/
def Root : Type := String → Folder

namespace Root

/-- The store of a device that was just found. -/
def store (root : Root) (uuid : Uuid) : Store := { uuid, folder := root uuid.text }

/-- What a store leaves on disk. -/
def keep (root : Root) (s : Store) : Root := fun name =>
  if name = s.uuid.text then s.folder else root name

/-- As long as no access fails, the files of a device that had none are those of its complete
dictionaries, after any calls.  A store that starts over finds all of these and no others, and that
of another device finds none of them. -/
theorem disk_mirrors_memory (root : Root) (uuid : Uuid) (cs : List StoreCall)
    (hsteady : (root uuid.text).Steady) (hempty : (root uuid.text).Lists [])
    (hlength : ∀ key d, ((root.store uuid).calls cs).getComplete? key = some d →
      d.data.length < 2 ^ 32) :
    let s := (root.store uuid).calls cs
    (∀ key, s.folder.has key.fileName = s.containsComplete key) ∧
    (∀ key d, s.getComplete? key = some d → ∃ content,
      s.folder.fileAt? key.fileName = some content ∧ ∀ path, Dictionary.decode path content =
        .ok { key, data := d.data, complete := true, file := path }) ∧
    (∃ s', ((root.keep s).store uuid).loadPersisted =
        (.ok (s.keys.filter s.containsComplete).length, s') ∧
      ∀ key, s'.get? key = s.getComplete? key) ∧
    (∀ other, other ≠ uuid → (root other.text).Steady → (root other.text).Lists [] →
      ∃ s', ((root.keep s).store other).loadPersisted = (.ok 0, s') ∧
        ∀ key, s'.get? key = none) := by
  intro s
  obtain ⟨ds, h⟩ := Store.mirrors_calls cs (Store.mirrors_nothing uuid hsteady hempty)
  change s.Mirrors ds at h
  have huuid : s.uuid = uuid := Store.uuid_calls cs _
  have hlengths : ∀ d ∈ ds, d.data.length < 2 ^ 32 := fun d hd => hlength _ _ (h.of_mem hd).1
  refine ⟨fun key => ?_, fun key d hd => ?_, ?_, fun other hother hsteady' hempty' => ?_⟩
  · rw [Bool.eq_iff_iff, Folder.has_iff h.listed, h.mem_names_iff]
    exact Option.isSome_iff_exists.symm
  · obtain ⟨hmem, rfl⟩ := h.mem_iff.mp hd
    obtain ⟨-, hfile, hcomplete⟩ := h.of_mem hmem
    refine ⟨d.encode, hfile ▸ h.fileAt?_eq hmem, fun path => ?_⟩
    rw [Dictionary.decode_encode (hlengths d hmem), hcomplete]
  · have hfolder : (root.keep s).store uuid = { uuid, folder := s.folder } := by
      unfold store keep
      rw [if_pos (congrArg Uuid.text huuid.symm)]
    rw [hfolder, h.length_complete]
    exact h.reload hlengths uuid
  · have hfolder : (root.keep s).store other = { uuid := other, folder := root other.text } := by
      unfold store keep
      rw [if_neg fun htext => hother ((Uuid.text_injective htext).trans huuid)]
    rw [hfolder]
    obtain ⟨s', hload, hget⟩ := (Store.mirrors_nothing other hsteady' hempty').reload
      (fun _ hd => absurd hd List.not_mem_nil) other
    exact ⟨s', hload, hget⟩

/-- Two dictionaries are completed, one of them is discarded again, and a third one stays
    partial. -/
def sampleCalls : List StoreCall :=
  [.addChunk ⟨1, 0⟩ [1, 2] false false, .addChunk ⟨1, 0⟩ [3] false true,
    .addChunk ⟨2, 0⟩ [4] false false, .addChunk .reserved [5, 0] true true, .reset ⟨1, 0⟩]

/-- Of three dictionaries, only the one that is complete and was not discarded is found again. -/
theorem disk_mirrors_memory_annotations :
    let s := (store (fun _ => {}) ⟨0⟩).calls sampleCalls
    s.folder.has "annotation.bin" = true ∧ s.folder.has "dictionary_1_0.bin" = false ∧
    s.folder.has "dictionary_2_0.bin" = false ∧
    (∃ s', ((keep (fun _ => {}) s).store ⟨0⟩).loadPersisted = (.ok 1, s') ∧
      ∀ key, s'.get? key = s.getComplete? key) ∧
    (∃ s', ((keep (fun _ => {}) s).store ⟨1⟩).loadPersisted = (.ok 0, s')) := by
  intro s
  have hshort : ∀ d ∈ s.dictionaries.values, d.data.length < 2 ^ 32 := by decide +kernel
  obtain ⟨hhas, -, hreload, hother⟩ := disk_mirrors_memory (fun _ => {}) ⟨0⟩ sampleCalls
    (fun _ => rfl) (Or.inr ⟨rfl, rfl⟩)
    (fun key d hd => hshort d (Table.mem_values (Store.getComplete?_eq_some.mp hd).1))
  have hcount : (s.keys.filter s.containsComplete).length = 1 :=
    ((List.mergeSort_perm s.dictionaries.keys _).filter _).length_eq.trans rfl
  obtain ⟨s', hload, -⟩ := hother ⟨1⟩ (by decide) (fun _ => rfl) (Or.inr ⟨rfl, rfl⟩)
  exact ⟨(hhas .reserved).trans rfl, (hhas ⟨1, 0⟩).trans rfl, (hhas ⟨2, 0⟩).trans rfl,
    hcount ▸ hreload, s', hload⟩

end Root

end DeviceEnablement
