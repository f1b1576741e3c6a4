/-
  How the entries of a table change.

  Look-ups say what a table holds; counting needs the entries themselves.

  1. `entries_insert`: a value under a new key comes last.
  2. `perm_entries_erase`: an entry that is taken out is the only one that is missed.
  3. `erase_insert`: what is put in and taken out again leaves the rest of the table.
  4. `size_insert_le`: a value that is put in takes at most one more place.
  5. `get?_mapValues`: what becomes of the values under their keys.
  6. `get?_foldl_insert`, `get?_foldl_insertNew`: of several values that are put in under one key, the
     last one stays, or the first one.  Values under keys of their own stand in the order in which
     they are put in (`entries_foldl_insert`).
  7. `perm_entries`: tables in which the same is found have the same entries, in whatever order.
-/
import DeviceEnablement.Table

namespace DeviceEnablement.Table

variable {κ α : Type} [DecidableEq κ]

/-! ## Putting in -/

theorem insertEntry_eq_append {k : κ} {v : α} {es : List (κ × α)} (h : k ∉ es.map Prod.fst) :
    insertEntry k v es = es ++ [(k, v)] := by
  induction es with
  | nil => rfl
  | cons e rest ih =>
    obtain ⟨k', v'⟩ := e
    rw [List.map_cons, List.mem_cons, not_or] at h
    rw [insertEntry, if_neg h.1, ih h.2, List.cons_append]

theorem entries_insert {t : Table κ α} {k : κ} (h : t.get? k = none) (v : α) :
    (t.insert k v).entries = t.entries ++ [(k, v)] :=
  insertEntry_eq_append ((t.get?_eq_none_iff k).mp h)

theorem keys_insert {t : Table κ α} {k : κ} (h : t.get? k = none) (v : α) :
    (t.insert k v).keys = t.keys ++ [k] := by
  rw [keys, entries_insert h, List.map_append]
  rfl

theorem values_insert {t : Table κ α} {k : κ} (h : t.get? k = none) (v : α) :
    (t.insert k v).values = t.values ++ [v] := by
  rw [values, entries_insert h, List.map_append]
  rfl

/-- What holds of the values that were there and of the new one holds of all. -/
theorem forall_values_insert {t : Table κ α} {k : κ} (h : t.get? k = none) {v : α}
    {p : α → Prop} : (∀ w ∈ (t.insert k v).values, p w) ↔ (∀ w ∈ t.values, p w) ∧ p v := by
  simp only [values_insert h, List.forall_mem_append, List.forall_mem_singleton]

theorem size_insert {t : Table κ α} {k : κ} (h : t.get? k = none) (v : α) :
    (t.insert k v).size = t.size + 1 := by
  rw [size, entries_insert h, List.length_append]
  rfl

theorem insertEntry_of_lookup {k : κ} {v : α} {es : List (κ × α)} (h : lookup k es = some v) :
    insertEntry k v es = es := by
  induction es with
  | nil => cases h
  | cons e rest ih =>
    obtain ⟨k', v'⟩ := e
    unfold lookup at h
    unfold insertEntry
    split at h
    · rename_i hkey
      cases h
      rw [if_pos hkey, hkey]
    · rename_i hkey
      rw [if_neg hkey, ih h]

theorem length_insertEntry_le (k : κ) (v : α) (es : List (κ × α)) :
    (insertEntry k v es).length ≤ es.length + 1 := by
  induction es with
  | nil => exact Nat.le_refl _
  | cons e rest ih =>
    obtain ⟨k', v'⟩ := e
    unfold insertEntry
    split
    · exact Nat.le_succ _
    · simp only [List.length_cons]
      omega

/-- A value that is put in takes at most one more place. -/
theorem size_insert_le (t : Table κ α) (k : κ) (v : α) : (t.insert k v).size ≤ t.size + 1 :=
  length_insertEntry_le k v t.entries

/-! ## Taking out -/

theorem filter_key_of_not_mem {k : κ} {es : List (κ × α)} (h : k ∉ es.map Prod.fst) :
    es.filter (fun e => decide (e.1 ≠ k)) = es := by
  rw [List.filter_eq_self]
  intro e he
  rw [decide_eq_true_iff]
  rintro rfl
  exact h (List.mem_map_of_mem he)

theorem filter_key_perm {k : κ} {v : α} {es : List (κ × α)} (hn : (es.map Prod.fst).Nodup)
    (h : (k, v) ∈ es) : es.Perm ((k, v) :: es.filter fun e => decide (e.1 ≠ k)) := by
  induction es with
  | nil => exact absurd h (List.not_mem_nil)
  | cons e rest ih =>
    rw [List.map_cons, List.nodup_cons] at hn
    rcases List.mem_cons.mp h with rfl | h
    · rw [List.filter_cons_of_neg (by simp), filter_key_of_not_mem hn.1]
    · have hne : e.1 ≠ k := fun he => hn.1 (he ▸ List.mem_map_of_mem (f := Prod.fst) h)
      rw [List.filter_cons_of_pos (by simpa using hne)]
      exact ((ih hn.2 h).cons e).trans (List.Perm.swap ..)

theorem perm_entries_erase {t : Table κ α} {k : κ} {v : α} (h : t.get? k = some v) :
    t.entries.Perm ((k, v) :: (t.erase k).entries) :=
  filter_key_perm t.nodup ((t.get?_eq_some_iff k v).mp h)

theorem perm_values_erase {t : Table κ α} {k : κ} {v : α} (h : t.get? k = some v) :
    t.values.Perm (v :: (t.erase k).values) :=
  (perm_entries_erase h).map Prod.snd

theorem mem_values_of_mem_erase {t : Table κ α} {k : κ} {v : α} (h : v ∈ (t.erase k).values) :
    v ∈ t.values :=
  (List.filter_sublist.map Prod.snd).subset h

theorem keys_erase (t : Table κ α) (k : κ) :
    (t.erase k).keys = t.keys.filter fun k' => decide (k' ≠ k) := by
  rw [keys, keys, List.filter_map]
  rfl

theorem size_erase {t : Table κ α} {k : κ} {v : α} (h : t.get? k = some v) :
    t.size = (t.erase k).size + 1 :=
  (perm_entries_erase h).length_eq

theorem filter_insertEntry {k : κ} {v : α} {es : List (κ × α)} :
    (insertEntry k v es).filter (fun e => decide (e.1 ≠ k)) =
      es.filter fun e => decide (e.1 ≠ k) := by
  induction es with
  | nil => simp [insertEntry]
  | cons e rest ih =>
    obtain ⟨k', v'⟩ := e
    unfold insertEntry
    split
    · rename_i hk
      subst hk
      rw [List.filter_cons_of_neg (by simp), List.filter_cons_of_neg (by simp)]
    · rw [List.filter_cons, List.filter_cons, ih]

omit [DecidableEq κ] in
@[ext] theorem ext {t t' : Table κ α} (h : t.entries = t'.entries) : t = t' := by
  obtain ⟨entries, _⟩ := t
  obtain ⟨entries', _⟩ := t'
  cases h
  rfl

/-- What is put in where it is already changes nothing. -/
theorem insert_of_get? {t : Table κ α} {k : κ} {v : α} (h : t.get? k = some v) : t.insert k v = t :=
  ext (insertEntry_of_lookup h)

/-- What is put in and taken out again leaves the rest of the table. -/
theorem erase_insert (t : Table κ α) (k : κ) (v : α) : (t.insert k v).erase k = t.erase k :=
  ext filter_insertEntry

/-- Nothing is taken out from under a key that is not there. -/
theorem erase_of_missing {t : Table κ α} {k : κ} (h : t.get? k = none) : t.erase k = t :=
  ext (filter_key_of_not_mem ((t.get?_eq_none_iff k).mp h))

/-- Two keys are taken out in either order. -/
theorem erase_comm (t : Table κ α) (k k' : κ) : (t.erase k).erase k' = (t.erase k').erase k := by
  refine ext ?_
  show (t.entries.filter _).filter _ = (t.entries.filter _).filter _
  rw [List.filter_filter, List.filter_filter]
  exact List.filter_congr fun e _ => Bool.and_comm ..

/-- A table in which nothing is found is empty. -/
theorem eq_empty_of_missing {t : Table κ α} (h : ∀ k, t.get? k = none) : t = {} := by
  have hentries : t.entries = [] := by
    rw [List.eq_nil_iff_forall_not_mem]
    rintro ⟨k, v⟩ hmem
    have hfound := (t.get?_eq_some_iff k v).mpr hmem
    rw [h k] at hfound
    cases hfound
  exact ext hentries

/-- What is found after a value was put in is that value, or was there under another key. -/
theorem of_get?_insert {t : Table κ α} {k k' : κ} {v w : α} (h : (t.insert k v).get? k' = some w) :
    (k' = k ∧ w = v) ∨ (k' ≠ k ∧ t.get? k' = some w) := by
  rw [get?_insert] at h
  split at h
  · rename_i hk
    exact Or.inl ⟨hk, (Option.some.inj h).symm⟩
  · rename_i hk
    exact Or.inr ⟨hk, h⟩

/-- What is found after a key was taken out was there under another key. -/
theorem of_get?_erase {t : Table κ α} {k k' : κ} {v : α} (h : (t.erase k).get? k' = some v) :
    k' ≠ k ∧ t.get? k' = some v := by
  rw [get?_erase] at h
  split at h
  · cases h
  · rename_i hk
    exact ⟨hk, h⟩

theorem mem_values {t : Table κ α} {k : κ} {v : α} (h : t.get? k = some v) : v ∈ t.values :=
  List.mem_map_of_mem (f := Prod.snd) ((t.get?_eq_some_iff k v).mp h)

/-! ## Values -/

/-- A function of the values leaves them under their keys. -/
theorem get?_mapValues {β : Type} (t : Table κ α) (f : α → β) (k : κ) :
    (t.mapValues f).get? k = (t.get? k).map f := by
  apply Option.ext
  intro w
  simp only [get?_eq_some_iff, Option.map_eq_some_iff, mapValues, List.mem_map, Prod.exists,
    Prod.mk.injEq]
  constructor
  · rintro ⟨k', v, hmem, rfl, hv⟩
    exact ⟨v, hmem, hv⟩
  · rintro ⟨v, hmem, hv⟩
    exact ⟨k, v, hmem, rfl, hv⟩

/-- A function is applied to a value before or after it is put in. -/
theorem mapValues_insert {β : Type} (t : Table κ α) (f : α → β) (k : κ) (v : α) :
    (t.insert k v).mapValues f = (t.mapValues f).insert k (f v) := by
  refine ext ?_
  show (insertEntry k v t.entries).map _ = insertEntry k (f v) (t.entries.map _)
  induction t.entries with
  | nil => rfl
  | cons e rest ih =>
    obtain ⟨k', v'⟩ := e
    rw [insertEntry, List.map_cons, insertEntry]
    split
    · rfl
    · rw [List.map_cons, ih]

/-! ## Putting in one after the other -/

section Fold

variable {β : Type}

/-- Of the values that are put in under a key, the last one stays. -/
theorem get?_foldl_insert (key : β → κ) (value : β → α) (bs : List β) (t : Table κ α) (k : κ) :
    (bs.foldl (fun t b => t.insert (key b) (value b)) t).get? k =
      ((bs.reverse.find? fun b => key b = k).map value).or (t.get? k) := by
  induction bs generalizing t with
  | nil => rfl
  | cons b rest ih =>
    rw [List.foldl_cons, ih, List.reverse_cons, List.find?_append, get?_insert]
    cases hrest : rest.reverse.find? fun b => key b = k with
    | some b' => simp
    | none => by_cases hk : k = key b <;> simp [hk, eq_comm]

/-- Of the values that are put in under a key unless it is there, the first one stays. -/
theorem get?_foldl_insertNew (key : β → κ) (value : β → α) (bs : List β) (t : Table κ α) (k : κ) :
    (bs.foldl (fun t b => t.insertNew (key b) (value b)) t).get? k =
      (t.get? k).or ((bs.find? fun b => key b = k).map value) := by
  induction bs generalizing t with
  | nil => simp
  | cons b rest ih =>
    rw [List.foldl_cons, ih, get?_insertNew]
    by_cases hk : k = key b
    · subst hk
      cases t.get? (key b) <;> simp
    · have hb : ¬ key b = k := fun h => hk h.symm
      simp [hk, hb]

/-- Values that are put in under new keys, each of its own, stand behind the others in order. -/
theorem entries_foldl_insert (key : β → κ) (value : β → α) {bs : List β} {t : Table κ α}
    (hnew : ∀ b ∈ bs, t.get? (key b) = none) (hnodup : (bs.map key).Nodup) :
    (bs.foldl (fun t b => t.insert (key b) (value b)) t).entries =
      t.entries ++ bs.map fun b => (key b, value b) := by
  induction bs generalizing t with
  | nil => simp
  | cons b rest ih =>
    rw [List.map_cons, List.nodup_cons] at hnodup
    have hrest : ∀ b' ∈ rest, (t.insert (key b) (value b)).get? (key b') = none := by
      intro b' hb'
      rw [get?_insert, if_neg]
      · exact hnew b' (List.mem_cons_of_mem _ hb')
      · intro hkey
        exact hnodup.1 (hkey ▸ List.mem_map_of_mem hb')
    rw [List.foldl_cons, ih hrest hnodup.2, entries_insert (hnew b List.mem_cons_self),
      List.map_cons, List.append_assoc, List.singleton_append]

end Fold

/-! ## Telling entries apart -/

/-- What is found by a key is the one element that has it, if no two have the same. -/
theorem find?_key_eq_some_iff {β : Type} (key : β → κ) {bs : List β} (hnodup : (bs.map key).Nodup)
    {k : κ} {b : β} : (bs.find? fun b => key b = k) = some b ↔ b ∈ bs ∧ key b = k := by
  induction bs with
  | nil => simp
  | cons first rest ih =>
    rw [List.map_cons, List.nodup_cons] at hnodup
    rw [List.find?_cons]
    by_cases hfirst : key first = k
    · have hother (hmem : b ∈ rest) : key b ≠ k := by
        rintro rfl
        exact hnodup.1 (hfirst ▸ List.mem_map_of_mem hmem)
      grind
    · grind

/-- Tables in which the same is found have the same entries, in whatever order. -/
theorem perm_entries {t t' : Table κ α} (h : ∀ k, t.get? k = t'.get? k) :
    t.entries.Perm t'.entries := by
  have hnodup (t : Table κ α) : t.entries.Nodup :=
    (List.pairwise_map.mp t.nodup).imp fun hkeys heq => hkeys (congrArg Prod.fst heq)
  rw [List.perm_ext_iff_of_nodup (hnodup t) (hnodup t')]
  rintro ⟨k, v⟩
  rw [← get?_eq_some_iff, ← get?_eq_some_iff, h]

/-! ## Counting -/

/-- A key is counted once among the entries that are kept, if its value is kept. -/
theorem count_keys_filter (t : Table κ α) (p : α → Bool) (k : κ) :
    (t.filter fun _ v => p v).keys.count k = if (t.get? k).any p then 1 else 0 := by
  have hmem : k ∈ (t.filter fun _ v => p v).keys ↔ (t.get? k).any p = true := by
    rw [mem_keys_iff, get?_filter, Option.any_eq_true]
    simp only [Option.filter_eq_some_iff]
  have hnodup : (t.filter fun _ v => p v).keys.Nodup := (t.filter fun _ v => p v).nodup
  simp only [hnodup.count, hmem]

end DeviceEnablement.Table
