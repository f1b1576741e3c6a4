/-
  Folders whose accesses succeed.

  In a folder that is `Steady`, no access fails unless the place does not allow it; so what each
  primitive does can be told from the entries (`Lists`).

  1. `fileAt?_iff`, `has_iff`: what is found in a folder without two entries of one name.
  2. `Steady.save`: a file under a new name comes last.
  3. `Steady.discard`: a file is taken out, if it is there.
  4. `Steady.list`, `Steady.advance`, `Steady.read`, `Steady.read_missing`: what is read is what is there.
-/
import DeviceEnablement.Proofs.Files.Folder
import DeviceEnablement.Proofs.Table
import Mathlib.Data.List.Nodup

namespace DeviceEnablement.Folder

variable {folder : Folder} {name : String} {content : Bytes} {entries : List (String × FolderEntry)}

/-! ## Entries -/

/-- Whether these are the entries of the folder.  One that has not been made has none. -/
def Lists (folder : Folder) (entries : List (String × FolderEntry)) : Prop :=
  folder.place = .listed entries ∨ (folder.place = .absent ∧ entries = [])

theorem find?_eq_some_iff (hnodup : (entries.map Prod.fst).Nodup) {entry : FolderEntry} :
    find? name entries = some entry ↔ (name, entry) ∈ entries := by
  unfold find?
  rw [Option.map_eq_some_iff]
  constructor
  · rintro ⟨⟨name', entry'⟩, hfound, rfl⟩
    obtain ⟨hmem, rfl⟩ := (Table.find?_key_eq_some_iff Prod.fst hnodup).mp hfound
    exact hmem
  · intro h
    exact ⟨(name, entry), (Table.find?_key_eq_some_iff Prod.fst hnodup).mpr ⟨h, rfl⟩, rfl⟩

theorem find?_eq_none_iff : find? name entries = none ↔ name ∉ entries.map Prod.fst := by
  unfold find?
  rw [Option.map_eq_none_iff, List.find?_eq_none]
  simp only [decide_eq_true_eq, List.mem_map, not_exists, not_and]

theorem bind_of_not_mem {entry : FolderEntry} (h : name ∉ entries.map Prod.fst) :
    bind name entry entries = entries ++ [(name, entry)] := by
  induction entries with
  | nil => rfl
  | cons e rest ih =>
    rw [List.map_cons, List.mem_cons, not_or] at h
    unfold bind
    rw [if_neg (Ne.symm h.1), ih h.2, List.cons_append]

theorem unbind_of_not_mem (h : name ∉ entries.map Prod.fst) : unbind name entries = entries :=
  Table.filter_key_of_not_mem h

/-- What is found in a folder is among its entries. -/
theorem fileAt?_iff (h : folder.Lists entries) (hnodup : (entries.map Prod.fst).Nodup) :
    folder.fileAt? name = some content ↔ (name, .file content) ∈ entries := by
  rw [fileAt?_eq_some, ← find?_eq_some_iff hnodup]
  rcases h with hplace | ⟨hplace, rfl⟩
  · rw [hplace]
    exact ⟨fun ⟨_, heq, hfound⟩ => by cases heq; exact hfound, fun hfound => ⟨_, rfl, hfound⟩⟩
  · rw [hplace]
    constructor
    · rintro ⟨_, heq, -⟩
      cases heq
    · intro hfound
      cases hfound

theorem has_iff (h : folder.Lists entries) :
    folder.has name = true ↔ name ∈ entries.map Prod.fst := by
  unfold has
  rcases h with hplace | ⟨hplace, rfl⟩
  · rw [hplace]
    dsimp only
    rw [← not_iff_not, ← find?_eq_none_iff, Option.not_isSome_iff_eq_none]
  · rw [hplace]
    exact ⟨(nomatch ·), fun hmem => absurd hmem List.not_mem_nil⟩

/-! ## Accesses -/

/-- Whether no access fails on its own. -/
def Steady (folder : Folder) : Prop := ∀ n, folder.fails n = false

theorem Steady.access_ok (h : folder.Steady) {α : Type} {value : α} {place : Place}
    {act : Place → Except FileError (α × Place)} (hact : act folder.place = .ok (value, place)) :
    ∃ folder', folder.access act = (.ok value, folder') ∧ folder'.Steady ∧
      folder'.place = place := by
  unfold access
  dsimp only
  rw [h, if_neg Bool.false_ne_true, hact]
  exact ⟨_, rfl, h, rfl⟩

theorem Steady.access_error (h : folder.Steady) {α : Type} {e : FileError}
    {act : Place → Except FileError (α × Place)} (hact : act folder.place = .error e) :
    ∃ folder', folder.access act = (.error e, folder') ∧ folder'.Steady ∧
      folder'.place = folder.place := by
  unfold access
  dsimp only
  rw [h, if_neg Bool.false_ne_true, hact]
  exact ⟨_, rfl, h, rfl⟩

theorem Steady.make (h : folder.Steady) (hlists : folder.Lists entries) :
    ∃ folder', folder.make = (.ok (), folder') ∧ folder'.Steady ∧
      folder'.place = .listed entries := by
  apply h.access_ok
  rcases hlists with hplace | ⟨hplace, rfl⟩
  · rw [hplace]
  · rw [hplace]

/-- A file under a new name comes last, and the file beside it is gone again. -/
theorem Steady.save (h : folder.Steady) (content : Bytes) (hlists : folder.Lists entries)
    (hname : name ∉ entries.map Prod.fst) (htemporary : temporary name ∉ entries.map Prod.fst)
    (hne : name ≠ temporary name) :
    ∃ folder', folder.save name content = (.ok (), folder') ∧ folder'.Steady ∧
      folder'.Lists (entries ++ [(name, .file content)]) := by
  -- The folder is made, the file is written beside its place, and then takes it.
  obtain ⟨made, hmake, hmade, hplace⟩ := h.make hlists
  obtain ⟨written, hwrite, hwritten, hbeside⟩ :
      ∃ folder', made.write (temporary name) content = (.ok (), folder') ∧ folder'.Steady ∧
        folder'.place = .listed (entries ++ [(temporary name, .file content)]) := by
    apply hmade.access_ok
    rw [hplace]
    dsimp only
    rw [find?_eq_none_iff.mpr htemporary, bind_of_not_mem htemporary]
  obtain ⟨renamed, hrename, hrenamed, hdone⟩ :
      ∃ folder', written.rename (temporary name) name = (.ok (), folder') ∧ folder'.Steady ∧
        folder'.place = .listed (entries ++ [(name, .file content)]) := by
    apply hwritten.access_ok
    rw [hbeside, ← bind_of_not_mem htemporary]
    dsimp only
    rw [find?_bind, if_pos rfl, find?_bind, if_neg hne, find?_eq_none_iff.mpr hname]
    dsimp only
    rw [bind_of_not_mem htemporary]
    have hunbind : unbind (temporary name) (entries ++ [(temporary name, .file content)]) =
        entries := by
      unfold unbind
      rw [List.filter_append, List.filter_cons_of_neg (by simp), List.filter_nil, List.append_nil]
      exact unbind_of_not_mem htemporary
    rw [hunbind, bind_of_not_mem hname]
  unfold Folder.save
  rw [hmake]
  dsimp only
  rw [hwrite]
  exact ⟨renamed, hrename, hrenamed, Or.inl hdone⟩

/-- A file is taken out; it makes no difference if there is none. -/
theorem Steady.discard (h : folder.Steady) (name : String) (hlists : folder.Lists entries)
    (hfile : ∀ entry, find? name entries = some entry → ∃ content, entry = .file content) :
    ∃ folder', folder.discard name = (.ok (), folder') ∧ folder'.Steady ∧
      folder'.Lists (unbind name entries) := by
  unfold Folder.discard
  rcases hlists with hplace | ⟨hplace, rfl⟩
  · cases hfound : find? name entries with
    | none =>
      obtain ⟨folder', hremove, hsteady, hplace'⟩ : ∃ folder', folder.remove name =
          (.error .notFound, folder') ∧ folder'.Steady ∧ folder'.place = folder.place := by
        apply h.access_error
        rw [hplace]
        dsimp only
        rw [hfound]
      rw [hremove, unbind_of_not_mem (find?_eq_none_iff.mp hfound)]
      exact ⟨folder', rfl, hsteady, Or.inl (hplace'.trans hplace)⟩
    | some entry =>
      obtain ⟨content, rfl⟩ := hfile entry hfound
      obtain ⟨folder', hremove, hsteady, hplace'⟩ : ∃ folder', folder.remove name =
          (.ok (), folder') ∧ folder'.Steady ∧ folder'.place = .listed (unbind name entries) := by
        apply h.access_ok
        rw [hplace]
        dsimp only
        rw [hfound]
      rw [hremove]
      exact ⟨folder', rfl, hsteady, Or.inl hplace'⟩
  · obtain ⟨folder', hremove, hsteady, hplace'⟩ : ∃ folder', folder.remove name =
        (.error .notFound, folder') ∧ folder'.Steady ∧ folder'.place = folder.place := by
      apply h.access_error
      rw [hplace]
    rw [hremove]
    exact ⟨folder', rfl, hsteady, Or.inr ⟨hplace'.trans hplace, rfl⟩⟩

/-- The entries are listed, or the folder is found not to be there. -/
theorem Steady.list (h : folder.Steady) (hlists : folder.Lists entries) :
    ∃ folder', folder'.Steady ∧ folder'.place = folder.place ∧
      (folder.list = (.ok entries, folder') ∨
        folder.list = (.error .notFound, folder') ∧ entries = []) := by
  rcases hlists with hplace | ⟨hplace, rfl⟩
  · obtain ⟨folder', hlist, hsteady, hplace'⟩ : ∃ folder', folder.list = (.ok entries, folder') ∧
        folder'.Steady ∧ folder'.place = .listed entries := by
      apply h.access_ok
      rw [hplace]
    exact ⟨folder', hsteady, hplace'.trans hplace.symm, Or.inl hlist⟩
  · obtain ⟨folder', hlist, hsteady, hplace'⟩ : ∃ folder', folder.list =
        (.error .notFound, folder') ∧ folder'.Steady ∧ folder'.place = folder.place := by
      apply h.access_error
      rw [hplace]
    exact ⟨folder', hsteady, hplace', Or.inr ⟨hlist, rfl⟩⟩

theorem Steady.advance (h : folder.Steady) :
    ∃ folder', folder.advance = (.ok (), folder') ∧ folder'.Steady ∧
      folder'.place = folder.place :=
  h.access_ok rfl

/-- A file that is there is read. -/
theorem Steady.read (h : folder.Steady) (hfile : folder.fileAt? name = some content) :
    ∃ folder', folder.read name = (.ok content, folder') ∧ folder'.Steady ∧
      folder'.place = folder.place := by
  obtain ⟨entries, hplace, hfound⟩ := fileAt?_eq_some.mp hfile
  apply h.access_ok
  rw [hplace]
  dsimp only
  rw [hfound]

/-- A file that is not there cannot be read. -/
theorem Steady.read_missing (h : folder.Steady) (hfile : folder.fileAt? name = none) :
    ∃ e folder', folder.read name = (.error e, folder') ∧ folder'.Steady ∧
      folder'.place = folder.place := by
  unfold fileAt? at hfile
  unfold Folder.read
  cases hplace : folder.place with
  | absent =>
    refine ⟨.notFound, hplace ▸ h.access_error ?_⟩
    rw [hplace]
  | blocked =>
    refine ⟨.failed, hplace ▸ h.access_error ?_⟩
    rw [hplace]
  | listed entries =>
    rw [hplace] at hfile
    dsimp only at hfile
    cases hfound : find? name entries with
    | none =>
      refine ⟨.notFound, hplace ▸ h.access_error ?_⟩
      rw [hplace]
      dsimp only
      rw [hfound]
    | some entry =>
      rw [hfound] at hfile
      cases entry with
      | folder =>
        refine ⟨.failed, hplace ▸ h.access_error ?_⟩
        rw [hplace]
        dsimp only
        rw [hfound]
      | file content => cases hfile

end DeviceEnablement.Folder
