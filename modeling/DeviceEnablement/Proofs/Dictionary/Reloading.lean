/-
  Which files a reloading trusts.

  A reloading takes every complete dictionary under the key that stands in its file, and never looks
  at how the name of the file compares with that key; saving and resetting go by the name alone.

  1. `Belongs`: a file that holds a complete dictionary has the name that goes with its key.
     `Folder.Tidy`: all files of a folder do.
  2. `loadPersisted_listed`: what a reloading makes of the files it has listed.
  3. In a tidy folder every dictionary comes from the file of its key (`own_file`), so that the order
     of the listing makes no difference (`loadPersisted_relisted`).
  4. `Reached`: a store that was opened on a folder, and all it has come to since.  It keeps the
     folder tidy, and the name of each dictionary that of its key (`Reached.orderly`).  So a key that
     was reset is gone (`missing_of_reset`).
  5. `reloading_trusts_own_files`: all of this for a tidy folder.  None of it holds once a file has
     been copied or renamed (`reloading_trusts_copies`).
-/
import DeviceEnablement.Proofs.Dictionary.Persistence

namespace DeviceEnablement

variable {folder folder' : Folder} {name : String} {content : Bytes} {d : Dictionary}

namespace Dictionary

/-! ## Files under their own names -/

/-- Whether a file that holds a complete dictionary has the name that goes with its key. -/
def Belongs (name : String) (content : Bytes) : Prop :=
  Store.isDictionaryFile name = true → ∀ d, decode name content = .ok d → d.complete = true →
    name = d.key.fileName

theorem belongs_encode (hfile : d.file = d.key.fileName) : Belongs d.file d.encode := by
  intro _ d' hdecode _
  rw [key_of_decode_encode hdecode, hfile]

/-- A file that is only being written holds no dictionary yet. -/
theorem belongs_temporary (name : String) (content : Bytes) :
    Belongs (Folder.temporary name) content := by
  intro hname
  rw [Store.isDictionaryFile_temporary] at hname
  cases hname

end Dictionary

open Dictionary (Belongs)

/-- Whether every file of a folder that holds a complete dictionary has the name of its key. -/
def Folder.Tidy (folder : Folder) : Prop :=
  ∀ name content, folder.fileAt? name = some content → Belongs name content

namespace Folder

theorem Tidy.gains (h : folder.Tidy) (hgains : Gains Belongs folder folder') : folder'.Tidy := by
  intro name content hfile
  rcases hgains name content hfile with hold | hnew
  · exact h name content hold
  · exact hnew

/-- A dictionary that is kept in a tidy folder is kept under the name of its key. -/
theorem Tidy.file_eq (h : folder.Tidy) (hkept : d.KeptIn folder) (hcomplete : d.complete = true) :
    d.file = d.key.fileName := by
  obtain ⟨hname, content, hfile, hdecode⟩ := hkept
  exact h d.file content hfile hname d hdecode hcomplete

/-- Whether two folders have the same entries, of one name each, and list them in any order. -/
def Relisted (folder folder' : Folder) : Prop :=
  ∃ entries entries', folder.place = .listed entries ∧ folder'.place = .listed entries' ∧
    entries.Perm entries' ∧ (entries.map Prod.fst).Nodup

theorem Relisted.fileAt?_eq (h : Relisted folder folder') (name : String) :
    folder'.fileAt? name = folder.fileAt? name := by
  obtain ⟨entries, entries', hplace, hplace', hperm, hnodup⟩ := h
  have hnodup' : (entries'.map Prod.fst).Nodup := (hperm.map Prod.fst).nodup_iff.mp hnodup
  refine Option.ext fun content => ?_
  rw [fileAt?_iff (Or.inl hplace') hnodup', fileAt?_iff (Or.inl hplace) hnodup, hperm.mem_iff]

end Folder

namespace Store

variable {s s' : Store} {key : DictionaryKey} {names : List String}

/-! ## What is taken -/

theorem kept?_eq_some (h : kept? folder name = some d) :
    d.KeptIn folder ∧ d.file = name ∧ d.complete = true := by
  unfold kept? at h
  split at h
  · rename_i hname
    split at h
    · rename_i d' hfile
      obtain ⟨content, hcontent, hdecode⟩ := Option.map_eq_some_iff.mp hfile
      obtain ⟨heq, hcomplete⟩ := Option.filter_eq_some_iff.mp h
      cases heq
      have hd := Dictionary.file_of_decode hdecode
      subst hd
      exact ⟨⟨hname, content, hcontent, hdecode⟩, rfl, hcomplete⟩
    · cases h
  · cases h

/-- The entries of a folder are gone through in the order in which they are listed. -/
theorem loadPersisted_listed {entries : List (String × FolderEntry)} (hsteady : s.folder.Steady)
    (hplace : s.folder.place = .listed entries) :
    let ds := (entries.map Prod.fst).filterMap (kept? s.folder)
    ∃ folder, loadPersisted s =
      (.ok ds.length, { s with dictionaries := gather s.dictionaries ds, folder }) := by
  obtain ⟨folder, hsteady', hplace', hlist⟩ := hsteady.list (Or.inl hplace)
  have hsame : kept? folder = kept? s.folder := kept?_congr (Folder.fileAt?_congr hplace')
  have hlisted : s.folder.list = (.ok entries, folder) := by
    rcases hlist with hlist | ⟨hlist, -⟩
    · exact hlist
    · have hact := (Folder.access_notFound hlist).1
      rw [hplace] at hact
      cases hact
  obtain ⟨folder', hloaded⟩ := loadFiles_kept (s := { s with folder }) hsteady'
    (entries.map Prod.fst) 0
  refine ⟨folder', ?_⟩
  unfold loadPersisted
  rw [hlisted]
  dsimp only
  rw [hloaded, Nat.zero_add]
  dsimp only
  rw [hsame]

/-! ## Tidy folders -/

/-- The dictionaries of a tidy folder have keys of their own. -/
theorem nodup_keys_kept (h : folder.Tidy) (hnodup : names.Nodup) :
    ((names.filterMap (kept? folder)).map Dictionary.key).Nodup := by
  rw [List.map_filterMap]
  refine hnodup.filterMap fun name name' key hkey hkey' => ?_
  obtain ⟨d, hd, rfl⟩ := Option.map_eq_some_iff.mp hkey
  obtain ⟨d', hd', heq⟩ := Option.map_eq_some_iff.mp hkey'
  obtain ⟨hkept, rfl, hcomplete⟩ := kept?_eq_some hd
  obtain ⟨hkept', rfl, hcomplete'⟩ := kept?_eq_some hd'
  rw [h.file_eq hkept hcomplete, h.file_eq hkept' hcomplete', heq]

/-- What is found under a key after a reloading was there before, or is the content of the file of
    this key. -/
theorem own_file (h : s.folder.Tidy) (key : DictionaryKey) :
    s.loadPersisted.2.get? key = s.get? key ∨
    ∃ d content, s.loadPersisted.2.get? key = some d ∧ d.key = key ∧
      s.folder.fileAt? key.fileName = some content ∧
      Dictionary.decode key.fileName content = .ok d := by
  rcases s.rereads_loadPersisted.found key with hsame | ⟨d, hfound, rfl, hcomplete, hkept⟩
  · exact Or.inl hsame
  · have hfile := h.file_eq hkept hcomplete
    obtain ⟨-, content, hcontent, hdecode⟩ := hkept
    rw [hfile] at hcontent hdecode
    exact Or.inr ⟨d, content, hfound, rfl, hcontent, hdecode⟩

/-- The order in which a tidy folder is listed makes no difference. -/
theorem loadPersisted_relisted (h : s.folder.Tidy) (hsteady : s.folder.Steady)
    (hsteady' : folder'.Steady) (hrelisted : Folder.Relisted s.folder folder') :
    ∃ loaded s₁ s₂, s.loadPersisted = (.ok loaded, s₁) ∧
      ({ s with folder := folder' } : Store).loadPersisted = (.ok loaded, s₂) ∧
      ∀ key, s₂.get? key = s₁.get? key := by
  have hsame : kept? folder' = kept? s.folder := kept?_congr hrelisted.fileAt?_eq
  obtain ⟨entries, entries', hplace, hplace', hperm, hnodup⟩ := hrelisted
  obtain ⟨folder₁, hload₁⟩ := loadPersisted_listed hsteady hplace
  obtain ⟨folder₂, hload₂⟩ :=
    loadPersisted_listed (s := { s with folder := folder' }) hsteady' hplace'
  change _ = (Except.ok ((entries'.map Prod.fst).filterMap (kept? folder')).length,
    { s with dictionaries := gather s.dictionaries ((entries'.map Prod.fst).filterMap (kept? folder')),
             folder := folder₂ }) at hload₂
  rw [hsame] at hload₂
  have hds := (hperm.map Prod.fst).filterMap (kept? s.folder)
  rw [← hds.length_eq] at hload₂
  refine ⟨_, _, _, hload₁, hload₂, fun key => Option.ext fun d => ?_⟩
  have hnodup₁ := nodup_keys_kept h hnodup
  have hnodup₂ := (hds.map Dictionary.key).nodup_iff.mp hnodup₁
  show (gather _ _).get? key = _ ↔ (gather _ _).get? key = _
  rw [get?_gather hnodup₁, get?_gather hnodup₂, hds.mem_iff, (hds.map Dictionary.key).mem_iff]

/-! ## Stores on a tidy folder -/

/-- A store that was opened on a folder, and all it has come to since. -/
inductive Reached (uuid : Uuid) (folder : Folder) : Store → Prop
  | opened : Reached uuid folder { uuid, folder }
  | reloaded {s : Store} (h : Reached uuid folder s) : Reached uuid folder s.loadPersisted.2
  | answered {s : Store} (h : Reached uuid folder s) (call : StoreCall) :
      Reached uuid folder (s.answer call).2
  | created {s : Store} (h : Reached uuid folder s) (key : DictionaryKey) (path : String)
      (content : Option Bytes) : Reached uuid folder (s.createFromFile key path content).2

/-- Whether each dictionary in memory has the file of its key, and each file on disk the name of its
    key. -/
structure Orderly (s : Store) : Prop where
  named : s.Named
  tidy : s.folder.Tidy

namespace Orderly

theorem insert (h : s.Orderly) (hfile : d.file = d.key.fileName) : (s.insert d).Orderly :=
  ⟨h.named.insert hfile, h.tidy⟩

theorem reload (h : s.Orderly) : s.loadPersisted.2.Orderly where
  named := by
    intro key d hget
    rcases s.rereads_loadPersisted.found key with hsame | ⟨d', hfound, rfl, hcomplete, hkept⟩
    · exact h.named key d (hsame.symm.trans hget)
    · cases hget.symm.trans hfound
      exact ⟨rfl, h.tidy.file_eq hkept hcomplete⟩
  tidy := h.tidy.gains (Folder.gains_of_place s.rereads_loadPersisted.place)

/-- A dictionary that is saved goes to the file of its key. -/
theorem save (h : s.Orderly) (hfile : d.file = d.key.fileName) : (s.save d).2.Orderly where
  named := h.named
  tidy := by
    rw [folder_save]
    exact h.tidy.gains (Folder.gains_save (Dictionary.belongs_encode hfile)
      (Dictionary.belongs_temporary d.file d.encode) s.folder)

theorem finish (h : s.Orderly) (hfile : d.file = d.key.fileName) : (s.finish d).2.Orderly :=
  (h.insert (d := d.markComplete) hfile).save (d := d.markComplete) hfile

theorem reset (h : s.Orderly) (key : DictionaryKey) : (s.reset key).2.Orderly where
  named := fun other d hget => h.named other d (Table.of_get?_erase hget).2
  tidy := by
    rw [folder_reset]
    exact h.tidy.gains (s.folder.gains_discard _ _)

theorem addChunk (h : s.Orderly) (key : DictionaryKey) (payload : Bytes)
    (hasChecksum isFinal : Bool) : (s.addChunk key payload hasChecksum isFinal).2.Orderly := by
  obtain ⟨hkey, hfile⟩ := h.named.getD key
  unfold Store.addChunk
  dsimp only
  generalize (s.get? key).getD (.new key key.fileName) = d at hkey hfile
  subst hkey
  split
  · exact h
  · cases happend : d.append (chunkContent payload hasChecksum) with
    | error e => exact h.insert hfile
    | ok d' =>
      have hd' : d'.file = d'.key.fileName := by
        unfold Dictionary.append at happend
        split at happend
        · cases happend
        · cases happend
          exact hfile
      cases isFinal with
      | true => exact h.finish hd'
      | false => exact h.insert hd'

theorem complete (h : s.Orderly) (key : DictionaryKey) : (s.complete key).2.Orderly := by
  unfold Store.complete
  cases hget : s.get? key with
  | none => exact h
  | some d =>
    dsimp only
    split
    · obtain ⟨hkey, hfile⟩ := h.named key d hget
      exact h.finish (hkey.symm ▸ hfile)
    · exact h

theorem create (h : s.Orderly) (key : DictionaryKey) (path : String) (content : Option Bytes) :
    (s.createFromFile key path content).2.Orderly := by
  unfold createFromFile
  split
  · exact h
  · exact h
  · exact h.insert rfl

end Orderly

/-- Whatever a store on a tidy folder is called upon to do, order is kept. -/
theorem Reached.orderly {uuid : Uuid} (htidy : folder.Tidy) (h : Reached uuid folder s) :
    s.Orderly := by
  induction h with
  | opened => exact ⟨fun _ _ hget => (nomatch hget), htidy⟩
  | reloaded _ ih => exact ih.reload
  | answered _ call ih =>
    cases call with
    | addChunk key payload hasChecksum isFinal => exact ih.addChunk key payload hasChecksum isFinal
    | complete key => exact ih.complete key
    | reset key => exact ih.reset key
  | created _ key path content ih => exact ih.create key path content

/-- A key that was reset is not found again, even by a store that starts over. -/
theorem missing_of_reset (h : s.Orderly) (hreset : s.reset key = (.ok (), s')) (uuid : Uuid) :
    ({ uuid, folder := s'.folder } : Store).loadPersisted.2.get? key = none := by
  have horderly := h.reset key
  rw [hreset] at horderly
  have hgone : s'.folder.fileAt? key.fileName = none := by
    unfold reset Dictionary.removeFile at hreset
    dsimp only at hreset
    rw [(h.named.getD key).2] at hreset
    split at hreset
    · rename_i hdiscard
      cases hreset
      exact Folder.discard_ok hdiscard
    · cases hreset
  rcases own_file (s := { uuid, folder := s'.folder }) horderly.tidy key with
    hsame | ⟨d, content, -, -, hcontent, -⟩
  · exact hsame
  · cases hgone.symm.trans hcontent

/-- In a tidy folder, what is installed under a key is the content of the file of this key; the order
    of the listing makes no difference, as long as no access fails; and a key that was reset, by a
    store that has come to anything since it was opened, is gone for good. -/
theorem reloading_trusts_own_files (htidy : folder.Tidy) (uuid : Uuid) :
    (∀ key d, ({ uuid, folder } : Store).loadPersisted.2.get? key = some d → d.key = key ∧
      ∃ content, folder.fileAt? key.fileName = some content ∧
        Dictionary.decode key.fileName content = .ok d) ∧
    (∀ folder', folder.Steady → folder'.Steady → Folder.Relisted folder folder' →
      ∃ loaded s₁ s₂, ({ uuid, folder } : Store).loadPersisted = (.ok loaded, s₁) ∧
        ({ uuid, folder := folder' } : Store).loadPersisted = (.ok loaded, s₂) ∧
        ∀ key, s₂.get? key = s₁.get? key) ∧
    ∀ s key s', Reached uuid folder s → s.reset key = (.ok (), s') →
      ({ uuid, folder := s'.folder } : Store).loadPersisted.2.get? key = none := by
  refine ⟨fun key d hget => ?_, fun folder' hsteady hsteady' hrelisted => ?_,
    fun s key s' hreached hreset => ?_⟩
  · rcases own_file (s := { uuid, folder }) htidy key with
      hsame | ⟨d', content, hfound, hkey, hfile, hdecode⟩
    · cases hsame.symm.trans hget
    · cases hget.symm.trans hfound
      exact ⟨hkey, content, hfile, hdecode⟩
  · exact loadPersisted_relisted (s := { uuid, folder }) htidy hsteady hsteady' hrelisted
  · exact missing_of_reset (hreached.orderly htidy) hreset uuid

/-- A store that is opened on a folder with these files, where no access fails. -/
def onFiles (files : List (String × Bytes)) : Store where
  uuid := ⟨0⟩
  folder := { place := .listed (files.map fun (name, content) => (name, .file content)) }

/-- A complete dictionary of three bytes. -/
def sampleDictionary : Dictionary := .ofContent ⟨1, 0⟩ "dictionary_1_0.bin" [1, 2, 3]

/-- The dictionary of annotations. -/
def sampleAnnotations : Dictionary := .ofContent .reserved "annotation.bin" [9]

/-- Two dictionaries under their own names, and a file that is none. -/
def sampleFiles : List (String × Bytes) :=
  [("dictionary_1_0.bin", sampleDictionary.encode), ("annotation.bin", sampleAnnotations.encode),
   ("notes.txt", [1])]

theorem tidy_sampleFiles : (onFiles sampleFiles).folder.Tidy := by
  intro name content hfile
  have hlists : (onFiles sampleFiles).folder.Lists
      (sampleFiles.map fun (name, content) => (name, .file content)) := Or.inl rfl
  have hmem := (Folder.fileAt?_iff hlists (by decide)).mp hfile
  simp only [sampleFiles, List.map_cons, List.map_nil, List.mem_cons, List.not_mem_nil, or_false,
    Prod.mk.injEq, FolderEntry.file.injEq] at hmem
  rcases hmem with ⟨rfl, rfl⟩ | ⟨rfl, rfl⟩ | ⟨rfl, rfl⟩
  · exact Dictionary.belongs_encode (d := sampleDictionary) rfl
  · exact Dictionary.belongs_encode (d := sampleAnnotations) rfl
  · exact fun hname => absurd hname (by decide)

/-- The dictionary comes from its own file, also when the files are listed the other way round, and
    is gone once it was reset. -/
theorem reloading_trusts_own_files_sample :
    (∃ content, (onFiles sampleFiles).folder.fileAt? "dictionary_1_0.bin" = some content ∧
      Dictionary.decode "dictionary_1_0.bin" content = .ok sampleDictionary) ∧
    (∃ loaded s₁ s₂, (onFiles sampleFiles).loadPersisted = (.ok loaded, s₁) ∧
      (onFiles sampleFiles.reverse).loadPersisted = (.ok loaded, s₂) ∧
      ∀ key, s₂.get? key = s₁.get? key) ∧
    ({ uuid := ⟨0⟩, folder := ((onFiles sampleFiles).loadPersisted.2.reset ⟨1, 0⟩).2.folder } :
      Store).loadPersisted.2.get? ⟨1, 0⟩ = none := by
  obtain ⟨hown, horder, hreset⟩ := reloading_trusts_own_files tidy_sampleFiles ⟨0⟩
  have hrelisted : Folder.Relisted (onFiles sampleFiles).folder (onFiles sampleFiles.reverse).folder :=
    ⟨_, _, rfl, rfl, (List.reverse_perm sampleFiles).symm.map _, by decide⟩
  refine ⟨(hown ⟨1, 0⟩ sampleDictionary (by decide +kernel)).2,
    horder _ (fun _ => rfl) (fun _ => rfl) hrelisted, ?_⟩
  have hgone : ∀ s, Reached ⟨0⟩ (onFiles sampleFiles).folder s → (s.reset ⟨1, 0⟩).1 = .ok () →
      ({ uuid := ⟨0⟩, folder := (s.reset ⟨1, 0⟩).2.folder } : Store).loadPersisted.2.get? ⟨1, 0⟩ =
        none := fun s hreached hdone => hreset s ⟨1, 0⟩ _ hreached (Prod.ext hdone rfl)
  exact hgone _ (.reloaded .opened) (by decide +kernel)

/-- Another one under the same key. -/
def sampleRival : Dictionary := .ofContent ⟨1, 0⟩ "backup.bin" [4]

/-- The only file has the name of another key. -/
def renamed : Store := onFiles [("dictionary_9_0.bin", sampleDictionary.encode)]

/-- There is a copy of the file, listed behind it. -/
def copied : Store :=
  onFiles [("dictionary_1_0.bin", sampleDictionary.encode), ("backup.bin", sampleDictionary.encode)]

/-- A dictionary is taken from a file with the name of another key, where the file of its own key
    is missing.  Of two files with one key the later one in the listing stays.  When a dictionary
    was taken from a copy, the copy is what a reset removes; the file of the key is found again. -/
theorem reloading_trusts_copies :
    (renamed.folder.fileAt? (DictionaryKey.fileName ⟨1, 0⟩) = none ∧
      (renamed.loadPersisted.2.get? ⟨1, 0⟩).isSome = true) ∧
    ((onFiles [("dictionary_1_0.bin", sampleDictionary.encode),
        ("backup.bin", sampleRival.encode)]).loadPersisted.2.get? ⟨1, 0⟩).map (·.data) = some [4] ∧
    ((onFiles [("backup.bin", sampleRival.encode),
        ("dictionary_1_0.bin", sampleDictionary.encode)]).loadPersisted.2.get? ⟨1, 0⟩).map (·.data) =
      some [1, 2, 3] ∧
    (copied.loadPersisted.2.reset ⟨1, 0⟩).1 = .ok () ∧
    (({ uuid := ⟨0⟩, folder := (copied.loadPersisted.2.reset ⟨1, 0⟩).2.folder } :
      Store).loadPersisted.2.get? ⟨1, 0⟩).isSome = true := by
  decide +kernel

end Store

end DeviceEnablement
