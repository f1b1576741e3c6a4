/-
  What a store holds.

  The dictionaries in memory are looked up with `Store.get?`; whether a file could be written or
  removed makes no difference to them.

  1. `get?_insert`, `get?_finish`, `get?_reset`: what each operation leaves under each key.
  2. `Store.SameBut`: two stores that hold the same under all keys but one, and have the same files
     but those of one dictionary.
  3. `Store.Holds`: the store holds these bytes of a dictionary that is not complete, and nothing at
     all before the first byte.  One more chunk is appended (`addChunk_eq`), and what has arrived can
     be completed, unless it is nothing (`complete_eq`, `complete_nothing`).
  4. `Dictionary.KeptIn`: a dictionary that can be read from a file.  `Store.Rereads`: what reloading
     comes to.  Under each key it leaves what was there, or a complete dictionary from a file of the
     folder (`rereads_loadPersisted`).
-/
import DeviceEnablement.Dictionary.Store
import DeviceEnablement.Proofs.Files.Folder

namespace DeviceEnablement

namespace Dictionary

variable {file : String} {content : Bytes} {d d' : Dictionary} {folder folder' : Folder}

/-! ## Files -/

/-- A dictionary bears the name of the file that it was read from. -/
theorem file_of_decode (h : decode file content = .ok d) : d.file = file := by
  unfold decode at h
  split at h
  · dsimp only at h
    repeat' split at h
    all_goals cases h
    rfl
  · cases h

/-- What is read from the file of a dictionary is a dictionary under the same key. -/
theorem key_of_decode_encode (h : decode file d.encode = .ok d') : d'.key = d.key := by
  unfold decode encode magic Bytes.ofU16 Bytes.ofU32 at h
  dsimp only [List.cons_append, List.nil_append] at h
  generalize (if d.complete = true then (1 : UInt8) else 0) = flag at h
  repeat' split at h
  all_goals cases h
  rw [Bytes.toU32_ofU32]

/-- Whether this is the content of a file of the dictionary under `key`. -/
def IsFile (key : DictionaryKey) (content : Bytes) : Prop :=
  ∃ d : Dictionary, d.key = key ∧ content = d.encode

/-- Whether this dictionary can be read from a file in the folder. -/
def KeptIn (d : Dictionary) (folder : Folder) : Prop :=
  Store.isDictionaryFile d.file = true ∧
    ∃ content, folder.fileAt? d.file = some content ∧ decode d.file content = .ok d

theorem KeptIn.of_place (h : d.KeptIn folder') (hplace : folder'.place = folder.place) :
    d.KeptIn folder := by
  obtain ⟨hname, content, hfile, hdecode⟩ := h
  rw [Folder.fileAt?_congr hplace] at hfile
  exact ⟨hname, content, hfile, hdecode⟩

end Dictionary

namespace Store

variable {s s' s'' : Store} {key other : DictionaryKey} {d : Dictionary}

/-! ## Looking up -/

theorem getComplete?_eq_some :
    s.getComplete? key = some d ↔ s.get? key = some d ∧ d.complete = true := by
  unfold getComplete?
  rw [Option.filter_eq_some_iff]

theorem containsComplete_iff :
    s.containsComplete key = true ↔ ∃ d, s.get? key = some d ∧ d.complete = true := by
  unfold containsComplete
  rw [Option.isSome_iff_exists]
  simp only [getComplete?_eq_some]

theorem getComplete?_congr (h : s'.get? key = s.get? key) :
    s'.getComplete? key = s.getComplete? key := by
  unfold getComplete?
  rw [h]

theorem containsComplete_congr (h : s'.get? key = s.get? key) :
    s'.containsComplete key = s.containsComplete key := by
  unfold containsComplete
  rw [getComplete?_congr h]

/-! ## Putting in and taking out -/

@[simp] theorem get?_insert (s : Store) (d : Dictionary) (key : DictionaryKey) :
    (s.insert d).get? key = if key = d.key then some d else s.get? key :=
  Table.get?_insert ..

@[simp] theorem get?_finish (s : Store) (d : Dictionary) (key : DictionaryKey) :
    (s.finish d).2.get? key = if key = d.key then some d.markComplete else s.get? key :=
  get?_insert s d.markComplete key

@[simp] theorem get?_reset (s : Store) (key other : DictionaryKey) :
    (s.reset key).2.get? other = if other = key then none else s.get? other :=
  Table.get?_erase ..

/-- A save is the save of one file. -/
theorem folder_save (s : Store) (d : Dictionary) :
    (s.save d).2.folder = (s.folder.save d.file d.encode).2 := by
  unfold save Dictionary.save
  dsimp only
  split
  · rename_i heq
    rw [heq]
  · rename_i heq
    rw [heq]

/-- A reset discards one file. -/
theorem folder_reset (s : Store) (key : DictionaryKey) :
    (s.reset key).2.folder =
      (s.folder.discard ((s.get? key).getD (.new key key.fileName)).file).2 := by
  unfold reset Dictionary.removeFile
  dsimp only
  split
  · rename_i heq
    rw [heq]
  · rename_i heq
    rw [heq]

/-! ## Other keys -/

/-- Whether two stores hold the same under every other key, and only a file of the dictionary under
    `key` is new. -/
structure SameBut (key : DictionaryKey) (s s' : Store) : Prop where
  others : ∀ other, other ≠ key → s'.get? other = s.get? other
  files : Folder.Gains (fun _ => Dictionary.IsFile key) s.folder s'.folder

theorem SameBut.refl (key : DictionaryKey) (s : Store) : SameBut key s s :=
  ⟨fun _ _ => rfl, Folder.gains_of_place rfl⟩

theorem SameBut.trans (h : SameBut key s s') (h' : SameBut key s' s'') : SameBut key s s'' where
  others := fun other hne => (h'.others other hne).trans (h.others other hne)
  files := h.files.trans h'.files

theorem sameBut_insert (s : Store) (d : Dictionary) : SameBut d.key s (s.insert d) where
  others := fun other hne => by rw [get?_insert, if_neg hne]
  files := Folder.gains_of_place rfl

theorem sameBut_save (s : Store) (d : Dictionary) : SameBut d.key s (s.save d).2 where
  others := fun _ _ => rfl
  files := by
    have hfile : Dictionary.IsFile d.key d.encode := ⟨d, rfl, rfl⟩
    rw [folder_save]
    exact Folder.gains_save hfile hfile s.folder

theorem sameBut_finish (s : Store) (d : Dictionary) : SameBut d.key s (s.finish d).2 :=
  (s.sameBut_insert d.markComplete).trans ((s.insert d.markComplete).sameBut_save d.markComplete)

theorem sameBut_reset (s : Store) (key : DictionaryKey) : SameBut key s (s.reset key).2 where
  others := fun other hne => by rw [get?_reset, if_neg hne]
  files := by
    rw [folder_reset]
    exact s.folder.gains_discard _ _

/-! ## Gathering -/

/-- The part of a dictionary that consists of these bytes. -/
def fragment (key : DictionaryKey) (data : Bytes) : Dictionary :=
  { Dictionary.new key key.fileName with data }

/-- Whether exactly these bytes of a dictionary have arrived, and more may follow. -/
def Holds (s : Store) (key : DictionaryKey) (data : Bytes) : Prop :=
  s.get? key = if data = [] then none else some (fragment key data)

variable {data chunk : Bytes}

theorem holds_nothing : s.Holds key [] ↔ s.get? key = none := Iff.rfl

theorem Holds.get?_eq (h : s.Holds key data) (hdata : data ≠ []) :
    s.get? key = some (fragment key data) :=
  h.trans (if_neg hdata)

/-- A part of a dictionary is no complete one. -/
theorem Holds.containsComplete_eq (h : s.Holds key data) : s.containsComplete key = false := by
  rw [Bool.eq_false_iff, ne_eq, containsComplete_iff]
  rintro ⟨d, hd, hcomplete⟩
  rw [h] at hd
  split at hd
  · cases hd
  · cases hd
    cases hcomplete

/-- What is appended to: the part that has arrived, or an empty one. -/
theorem Holds.getD_eq (h : s.Holds key data) :
    (s.get? key).getD (.new key key.fileName) = fragment key data := by
  rw [h]
  split
  · rename_i hnothing
    rw [hnothing]
    rfl
  · rfl

/-- A chunk is appended; the last one completes the dictionary. -/
theorem addChunk_eq (h : s.Holds key data) (hchunk : chunk ≠ []) (last : Bool) :
    s.addChunk key chunk false last =
      if last then s.finish (fragment key (data ++ chunk))
      else (.ok (), s.insert (fragment key (data ++ chunk))) := by
  have hnonempty : ¬ chunk.isEmpty = true := fun hempty => hchunk (List.isEmpty_iff.mp hempty)
  unfold addChunk
  rw [if_neg hnonempty]
  dsimp only
  rw [h.getD_eq]
  rfl

/-- What has arrived is completed. -/
theorem complete_eq (h : s.Holds key data) (hdata : data ≠ []) :
    s.complete key = s.finish (fragment key data) := by
  have hnonempty : data.isEmpty = false := Bool.eq_false_iff.mpr fun hempty =>
    hdata (List.isEmpty_iff.mp hempty)
  unfold complete
  rw [h.get?_eq hdata]
  show (if (!data.isEmpty && true) = true then _ else _) = _
  rw [hnonempty]
  rfl

/-- When nothing has arrived, there is nothing to be completed. -/
theorem complete_nothing (h : s.Holds key []) : ∃ e, s.complete key = (.error e, s) := by
  unfold complete
  rw [holds_nothing.mp h]
  exact ⟨_, rfl⟩

/-- One more chunk has arrived. -/
theorem holds_insert (s : Store) (hdata : data ≠ []) :
    (s.insert (fragment key data)).Holds key data := by
  unfold Holds
  rw [get?_insert, if_neg hdata]
  exact if_pos rfl

/-! ## Reloading -/

/-- Whether `s'` holds under each key what `s` holds, or a complete dictionary from a file. -/
structure Rereads (s s' : Store) : Prop where
  place : s'.folder.place = s.folder.place
  found : ∀ key, s'.get? key = s.get? key ∨
    ∃ d, s'.get? key = some d ∧ d.key = key ∧ d.complete = true ∧ d.KeptIn s.folder

/-- Nothing but the folder may differ, and that not in its files. -/
theorem rereads_of_folder (s : Store) {folder : Folder} (hplace : folder.place = s.folder.place) :
    Rereads s { s with folder } := ⟨hplace, fun _ => Or.inl rfl⟩

theorem Rereads.trans (h : Rereads s s') (h' : Rereads s' s'') : Rereads s s'' where
  place := h'.place.trans h.place
  found := by
    intro key
    rcases h'.found key with hsame | ⟨d, hfound, hkey, hcomplete, hkept⟩
    · rw [hsame]
      exact h.found key
    · exact Or.inr ⟨d, hfound, hkey, hcomplete, hkept.of_place h.place⟩

theorem rereads_insert (hcomplete : d.complete = true) (hkept : d.KeptIn s.folder) :
    Rereads s (s.insert d) where
  place := rfl
  found := by
    intro key
    rw [get?_insert]
    split
    · rename_i hkey
      exact Or.inr ⟨d, rfl, hkey.symm, hcomplete, hkept⟩
    · exact Or.inl rfl

theorem rereads_loadFile (s : Store) (loaded : Nat) (name : String) :
    Rereads s (loadFile s loaded name).2 := by
  have hplace := s.folder.place_read name
  unfold loadFile
  split
  · rename_i hname
    obtain ⟨⟨result, folder⟩, hread⟩ : ∃ result, s.folder.read name = result := ⟨_, rfl⟩
    rw [hread] at hplace
    have hlooked := s.rereads_of_folder hplace
    unfold Dictionary.load
    rw [hread]
    cases result with
    | error e => exact hlooked
    | ok bytes =>
      dsimp only
      cases hdecode : Dictionary.decode name bytes with
      | error e => exact hlooked
      | ok d =>
        dsimp only
        split
        · rename_i hcomplete
          have hfile := Dictionary.file_of_decode hdecode
          have hkept : d.KeptIn folder := by
            unfold Dictionary.KeptIn
            rw [hfile]
            refine ⟨hname, bytes, ?_, hdecode⟩
            exact (Folder.fileAt?_congr hplace name).trans (Folder.read_ok hread)
          exact hlooked.trans (rereads_insert hcomplete hkept)
        · exact hlooked
  · exact s.rereads_of_folder rfl

/-- Wherever the listing breaks off, what was taken until then is complete. -/
theorem rereads_loadFiles (names : List String) (s : Store) (loaded : Nat) :
    Rereads s (loadFiles s loaded names).2 := by
  induction names generalizing s loaded with
  | nil =>
    have hadvanced := s.rereads_of_folder s.folder.place_advance
    unfold loadFiles
    split <;> rename_i hadvance <;> rw [hadvance] at hadvanced <;> exact hadvanced
  | cons name rest ih =>
    have hadvanced := s.rereads_of_folder s.folder.place_advance
    unfold loadFiles
    split
    · rename_i hadvance
      rw [hadvance] at hadvanced
      exact hadvanced
    · rename_i folder hadvance
      rw [hadvance] at hadvanced
      exact hadvanced.trans ((rereads_loadFile _ loaded name).trans (ih _ _))

/-- Reloading leaves what was there, or takes a complete dictionary from a file. -/
theorem rereads_loadPersisted (s : Store) : Rereads s s.loadPersisted.2 := by
  have hplace := s.folder.place_list
  unfold loadPersisted
  obtain ⟨⟨result, folder⟩, hlist⟩ : ∃ result, s.folder.list = result := ⟨_, rfl⟩
  rw [hlist] at hplace ⊢
  have hlooked := s.rereads_of_folder hplace
  cases result with
  | error e =>
    cases e with
    | notFound | failed => exact hlooked
  | ok entries => exact hlooked.trans (rereads_loadFiles _ _ 0)

/-- The listing breaks off behind its first entry, whose dictionary stays. -/
example : (loadPersisted { uuid := ⟨0⟩, folder := {
    place := .listed [("a.bin", .file (Dictionary.ofContent ⟨1, 0⟩ "a.bin" [1]).encode),
      ("b.bin", .file (Dictionary.ofContent ⟨2, 0⟩ "b.bin" [2]).encode)]
    fails := fun access => access = 3 } }).map id (fun s => s.dictionaries.keys) =
      (.error (.io .failed), [⟨1, 0⟩]) :=
  rfl

/-- Reading the annotations leaves the store as it is, or puts them in. -/
theorem loadAnnotations_cases (s : Store) (path : String) (content : Option Bytes) :
    (s.loadAnnotations path content).2 = s ∨
    ∃ data, content = some data ∧ (s.loadAnnotations path content).2 =
      s.insert (.ofContent .reserved DictionaryKey.reserved.fileName data) := by
  cases content with
  | none => exact Or.inl rfl
  | some data =>
    cases data with
    | nil => exact Or.inl rfl
    | cons first rest => exact Or.inr ⟨_, rfl, rfl⟩

end Store

end DeviceEnablement
