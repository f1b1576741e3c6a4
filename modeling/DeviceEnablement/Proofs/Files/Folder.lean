/-
  The files of a folder.

  An access fails, or changes what stands at the place of the folder as its primitive says
  (`access_cases`).

  1. `Folder.fileAt?`: the content of the file with a name.
  2. `place_list`, `place_advance`, `place_read`, `read_ok`: what only looks at the files leaves them
     as they are.
  3. `Folder.Gains`: the files that may be new, or have other content (`gains_save`, `gains_discard`,
     `gains_put`).  A file that is replaced is gained twice: beside the target, and in its place.
  4. `write_ok`, `put_ok`, `discard_ok`: what is there, or is not, once an access has succeeded.
-/
import DeviceEnablement.Files.Folder

namespace DeviceEnablement.Folder

variable {folder folder' folder'' : Folder} {name other : String} {content : Bytes}
  {entries : List (String × FolderEntry)}

/-! ## Entries -/

theorem find?_bind (name other : String) (entry : FolderEntry)
    (entries : List (String × FolderEntry)) :
    find? other (bind name entry entries) =
      if other = name then some entry else find? other entries := by
  induction entries with
  | nil => by_cases h : other = name <;> simp [bind, find?, h, eq_comm]
  | cons e rest ih =>
    obtain ⟨first, old⟩ := e
    unfold find? at ih ⊢
    unfold bind
    by_cases hfirst : first = name
    · subst hfirst
      by_cases h : other = first
      · subst h
        simp
      · have hne : first ≠ other := fun heq => h heq.symm
        simp [hne, h]
    · rw [if_neg hfirst]
      by_cases h : first = other
      · subst h
        simp [hfirst]
      · simpa [h] using ih

theorem find?_unbind (name other : String) (entries : List (String × FolderEntry)) :
    find? other (unbind name entries) = if other = name then none else find? other entries := by
  unfold find? unbind
  rw [List.find?_filter]
  by_cases h : other = name
  · rw [if_pos h, List.find?_eq_none.mpr]
    · rfl
    · intro e _
      simp [h]
  · rw [if_neg h]
    congr 2
    funext e
    by_cases he : e.1 = other <;> simp [he, h]

/-- What is found after a name was taken out was there. -/
theorem of_find?_unbind {entry : FolderEntry} (h : find? other (unbind name entries) = some entry) :
    find? other entries = some entry := by
  rw [find?_unbind] at h
  split at h
  · cases h
  · exact h

/-! ## Accesses -/

/-- An access fails and changes nothing, or changes the place as its primitive says. -/
theorem access_cases {α : Type} (folder : Folder)
    (act : Place → Except FileError (α × Place)) :
    (∃ e folder', folder.access act = (.error e, folder') ∧ folder'.place = folder.place) ∨
    ∃ value place, act folder.place = .ok (value, place) ∧
      ∃ folder', folder.access act = (.ok value, folder') ∧ folder'.place = place := by
  unfold access
  dsimp only
  split
  · exact Or.inl ⟨_, _, rfl, rfl⟩
  · split
    · rename_i value place hact
      exact Or.inr ⟨value, place, hact, _, rfl, rfl⟩
    · exact Or.inl ⟨_, _, rfl, rfl⟩

/-- Nothing is missing unless the place says so. -/
theorem access_notFound {α : Type} {act : Place → Except FileError (α × Place)}
    (h : folder.access act = (.error .notFound, folder')) :
    act folder.place = .error .notFound ∧ folder'.place = folder.place := by
  unfold access at h
  dsimp only at h
  split at h
  · cases h
  · split at h
    · cases h
    · rename_i hact
      cases h
      exact ⟨hact, rfl⟩

/-- What only looks at the files leaves them as they are. -/
theorem place_access {α : Type} {act : Place → Except FileError (α × Place)}
    (hlooks : ∀ place value place', act place = .ok (value, place') → place' = place)
    (folder : Folder) : (folder.access act).2.place = folder.place := by
  rcases folder.access_cases act with
    ⟨e, folder', heq, hplace⟩ | ⟨value, place, hact, folder', heq, hplace⟩
  · rw [heq]
    exact hplace
  · rw [heq]
    exact hplace.trans (hlooks _ _ _ hact)

theorem place_list (folder : Folder) : folder.list.2.place = folder.place := by
  refine place_access (fun place value place' hact => ?_) folder
  cases place with
  | absent | blocked => cases hact
  | listed entries =>
    cases hact
    rfl

theorem place_advance (folder : Folder) : folder.advance.2.place = folder.place :=
  place_access (fun place value place' hact => by cases hact; rfl) folder

theorem place_read (folder : Folder) (name : String) : (folder.read name).2.place = folder.place := by
  refine place_access (fun place value place' hact => ?_) folder
  cases place with
  | absent | blocked => cases hact
  | listed entries =>
    dsimp only at hact
    split at hact <;> cases hact
    rfl

/-! ## Files -/

/-- The content of the file with this name. -/
def fileAt? (folder : Folder) (name : String) : Option Bytes :=
  match folder.place with
  | .listed entries =>
    match find? name entries with
    | some (.file content) => some content
    | _ => none
  | _ => none

theorem fileAt?_eq_some : folder.fileAt? name = some content ↔
    ∃ entries, folder.place = .listed entries ∧ find? name entries = some (.file content) := by
  unfold fileAt?
  constructor
  · intro h
    split at h
    · rename_i entries hplace
      refine ⟨entries, hplace, ?_⟩
      split at h
      · rename_i hfound
        rw [hfound, Option.some.inj h]
      · cases h
    · cases h
  · rintro ⟨entries, hplace, hfound⟩
    rw [hplace]
    dsimp only
    rw [hfound]

theorem fileAt?_congr (h : folder'.place = folder.place) (name : String) :
    folder'.fileAt? name = folder.fileAt? name := by
  unfold fileAt?
  rw [h]

/-- What is read is the content of the file. -/
theorem read_ok (h : folder.read name = (.ok content, folder')) :
    folder.fileAt? name = some content := by
  unfold read at h
  rcases folder.access_cases _ with ⟨e, folder₁, heq, -⟩ | ⟨value, place, hact, folder₁, heq, -⟩
  · rw [heq] at h
    cases h
  · rw [heq] at h
    cases h
    rw [fileAt?_eq_some]
    split at hact
    · cases hact
    · cases hact
    · rename_i entries hplace
      split at hact
      · rename_i hfound
        cases hact
        exact ⟨entries, hplace, hfound⟩
      · cases hact
      · cases hact

/-! ## Files that are new -/

/-- Whether every file of `folder'` is one of `folder`, or one that `new` allows. -/
def Gains (new : String → Bytes → Prop) (folder folder' : Folder) : Prop :=
  ∀ name content, folder'.fileAt? name = some content →
    folder.fileAt? name = some content ∨ new name content

variable {new new' : String → Bytes → Prop}

theorem gains_of_place (h : folder'.place = folder.place) : Gains new folder folder' := by
  intro name content hfound
  rw [fileAt?_congr h] at hfound
  exact Or.inl hfound

theorem Gains.trans (h : Gains new folder folder') (h' : Gains new folder' folder'') :
    Gains new folder folder'' := by
  intro name content hfound
  rcases h' name content hfound with hold | hnew
  · exact h name content hold
  · exact Or.inr hnew

theorem Gains.mono (h : Gains new folder folder')
    (hnew : ∀ name content, new name content → new' name content) :
    Gains new' folder folder' :=
  fun name content hfound => (h name content hfound).imp_right (hnew name content)

/-- An access gains what its primitive puts in. -/
theorem gains_access {α : Type} {act : Place → Except FileError (α × Place)}
    (hact : ∀ place value entries, act place = .ok (value, .listed entries) →
      ∀ name content, find? name entries = some (.file content) →
        (∃ old, place = .listed old ∧ find? name old = some (.file content)) ∨ new name content)
    (folder : Folder) : Gains new folder (folder.access act).2 := by
  rcases folder.access_cases act with
    ⟨e, folder', heq, hplace⟩ | ⟨value, place, hok, folder', heq, hplace⟩
  · rw [heq]
    exact gains_of_place hplace
  · rw [heq]
    intro name content hfound
    obtain ⟨entries, hlisted, hentry⟩ := fileAt?_eq_some.mp hfound
    have hplace : place = .listed entries := hplace.symm.trans hlisted
    subst hplace
    exact (hact _ _ _ hok name content hentry).imp_left fileAt?_eq_some.mpr

theorem gains_make (new : String → Bytes → Prop) (folder : Folder) :
    Gains new folder folder.make.2 := by
  refine gains_access (fun place value entries hok name content hfound => ?_) folder
  cases place with
  | absent =>
    cases hok
    cases hfound
  | blocked => cases hok
  | listed old =>
    cases hok
    exact Or.inl ⟨_, rfl, hfound⟩

theorem gains_write (hnew : new name content) (folder : Folder) :
    Gains new folder (folder.write name content).2 := by
  refine gains_access (fun place value entries hok other bytes hfound => ?_) folder
  cases place with
  | absent | blocked => cases hok
  | listed old =>
    have hentries : entries = bind name (.file content) old := by
      dsimp only at hok
      split at hok
      · cases hok
      · cases hok
        rfl
    rw [hentries, find?_bind] at hfound
    split at hfound
    · rename_i hname
      cases hfound
      exact Or.inr (hname ▸ hnew)
    · exact Or.inl ⟨old, rfl, hfound⟩

/-- A file that takes the place of another one brings its content with it. -/
theorem gains_rename {source target : String}
    (hnew : ∀ content, folder.fileAt? source = some content → new target content) :
    Gains new folder (folder.rename source target).2 := by
  unfold rename
  rcases folder.access_cases _ with
    ⟨e, folder', heq, hplace⟩ | ⟨value, place, hok, folder', heq, hplace⟩
  · rw [heq]
    exact gains_of_place hplace
  · rw [heq]
    intro other bytes hfound
    obtain ⟨entries, hlisted, hentry⟩ := fileAt?_eq_some.mp hfound
    have hplace : place = .listed entries := hplace.symm.trans hlisted
    subst hplace
    split at hok
    · cases hok
    · cases hok
    · rename_i old hold
      split at hok
      · cases hok
      · rename_i moved _ hmoved _
        cases hok
        rw [find?_bind] at hentry
        split at hentry
        · rename_i htarget
          cases hentry
          exact Or.inr (htarget ▸ hnew _ (fileAt?_eq_some.mpr ⟨old, hold, hmoved⟩))
        · exact Or.inl (fileAt?_eq_some.mpr ⟨old, hold, of_find?_unbind hentry⟩)
      · cases hok
      · cases hok

theorem gains_remove (new : String → Bytes → Prop) (folder : Folder) (name : String) :
    Gains new folder (folder.remove name).2 := by
  refine gains_access (fun place value entries hok other content hfound => ?_) folder
  cases place with
  | absent | blocked => cases hok
  | listed old =>
    dsimp only at hok
    split at hok <;> cases hok
    exact Or.inl ⟨_, rfl, of_find?_unbind hfound⟩

/-- What was written is there. -/
theorem write_ok {value : Unit} (h : folder.write name content = (.ok value, folder')) :
    folder'.fileAt? name = some content := by
  unfold write at h
  rcases folder.access_cases _ with
    ⟨e, folder₁, heq, -⟩ | ⟨value, place, hok, folder₁, heq, hplace⟩
  · rw [heq] at h
    cases h
  · rw [heq] at h
    cases h
    have hbound : ∃ entries, place = .listed (bind name (.file content) entries) := by
      split at hok
      · cases hok
      · cases hok
      · split at hok
        · cases hok
        · cases hok
          exact ⟨_, rfl⟩
    obtain ⟨entries, rfl⟩ := hbound
    rw [fileAt?_eq_some]
    refine ⟨_, hplace, ?_⟩
    rw [find?_bind, if_pos rfl]

theorem put_ok {value : Unit} (h : folder.put name content = (.ok value, folder')) :
    folder'.fileAt? name = some content := by
  unfold put at h
  split at h
  · cases h
  · exact write_ok h

/-- A file that is replaced may be gained in its place and beside it. -/
theorem gains_save (hnew : new name content) (htemporary : new (temporary name) content)
    (folder : Folder) : Gains new folder (folder.save name content).2 := by
  have hmade := folder.gains_make new
  unfold save
  split
  · rename_i heq
    rw [heq] at hmade
    exact hmade
  · rename_i made heq
    rw [heq] at hmade
    have hwritten := gains_write htemporary made
    split
    · rename_i heq
      rw [heq] at hwritten
      exact hmade.trans hwritten
    · rename_i written heq
      rw [heq] at hwritten
      refine hmade.trans (hwritten.trans (gains_rename fun bytes hfound => ?_))
      rw [write_ok heq] at hfound
      cases hfound
      exact hnew

theorem gains_put (hnew : new name content) (folder : Folder) :
    Gains new folder (folder.put name content).2 := by
  have hmade := folder.gains_make new
  unfold put
  split
  · rename_i heq
    rw [heq] at hmade
    exact hmade
  · rename_i made heq
    rw [heq] at hmade
    exact hmade.trans (gains_write hnew made)

theorem fileAt?_eq_none (hplace : folder.place = .listed entries)
    (hfound : find? name entries = none) : folder.fileAt? name = none := by
  unfold fileAt?
  rw [hplace]
  dsimp only
  rw [hfound]

theorem remove_ok {value : Unit} (h : folder.remove name = (.ok value, folder')) :
    folder'.fileAt? name = none := by
  unfold remove at h
  rcases folder.access_cases _ with
    ⟨e, folder₁, heq, -⟩ | ⟨value, place, hact, folder₁, heq, hplace⟩
  · rw [heq] at h
    cases h
  · rw [heq] at h
    cases h
    split at hact
    · cases hact
    · cases hact
    · split at hact
      · cases hact
        refine fileAt?_eq_none hplace ?_
        rw [find?_unbind, if_pos rfl]
      · cases hact
      · cases hact

theorem remove_notFound (h : folder.remove name = (.error .notFound, folder')) :
    folder'.fileAt? name = none := by
  obtain ⟨hact, hplace⟩ := access_notFound h
  split at hact
  · rename_i habsent
    unfold fileAt?
    rw [hplace, habsent]
  · cases hact
  · rename_i entries hlisted
    split at hact
    · cases hact
    · cases hact
    · rename_i hfound
      exact fileAt?_eq_none (hplace.trans hlisted) hfound

/-- What was discarded is not there, whether or not there was anything to be removed. -/
theorem discard_ok {value : Unit} (h : folder.discard name = (.ok value, folder')) :
    folder'.fileAt? name = none := by
  unfold discard at h
  split at h
  · rename_i hremove
    cases h
    exact remove_notFound hremove
  · exact remove_ok h

/-- Removing a file gains none. -/
theorem gains_discard (new : String → Bytes → Prop) (folder : Folder) (name : String) :
    Gains new folder (folder.discard name).2 := by
  have hremoved := folder.gains_remove new name
  unfold discard
  split
  · rename_i heq
    rw [heq] at hremoved
    exact hremoved
  · exact hremoved

end DeviceEnablement.Folder
