/-
  Finite maps kept as lists of pairs.

  A `Table` lists its entries in the order in which their keys were first put in; no key occurs
  twice.  The one view is `get?`, and each operation is described through it:

  1. `get?_insert`: the new value under its key, the old one under any other.
  2. `get?_erase`: nothing under the key, the old value under any other.
  3. `get?_insertNew`: the value that is there already stays.
  4. `get?_filter`, `mem_keys_iff`: which keys are left, and which are there at all.
-/

namespace DeviceEnablement

/-- A finite map from `κ` to `α`. -/
structure Table (κ α : Type) where
  /-- The entries, in the order in which their keys were first put in. -/
  entries : List (κ × α)
  nodup : (entries.map Prod.fst).Nodup

namespace Table

variable {κ α β : Type}

/-- The map without entries. -/
def empty : Table κ α := ⟨[], List.nodup_nil⟩

instance : EmptyCollection (Table κ α) := ⟨empty⟩
instance : Inhabited (Table κ α) := ⟨empty⟩

/-- The keys, in the order in which they were first put in. -/
def keys (t : Table κ α) : List κ := t.entries.map Prod.fst

/-- The values, in the order of their keys. -/
def values (t : Table κ α) : List α := t.entries.map Prod.snd

/-- The number of entries. -/
def size (t : Table κ α) : Nat := t.entries.length

/-- Whether there are no entries. -/
def isEmpty (t : Table κ α) : Bool := t.entries.isEmpty

section Lookup

variable [DecidableEq κ]

/-- The value that a list of entries holds first under a key. -/
def lookup (k : κ) : List (κ × α) → Option α
  | [] => none
  | (k', v) :: rest => if k = k' then some v else lookup k rest

/-- The value under a key. -/
def get? (t : Table κ α) (k : κ) : Option α := lookup k t.entries

/-- Whether a key is there. -/
def contains (t : Table κ α) (k : κ) : Bool := (t.get? k).isSome

/-- Entries with a value put under a key: in place if the key is there, at the end if not. -/
def insertEntry (k : κ) (v : α) : List (κ × α) → List (κ × α)
  | [] => [(k, v)]
  | (k', v') :: rest => if k = k' then (k, v) :: rest else (k', v') :: insertEntry k v rest

theorem mem_keys_insertEntry {k k' : κ} {v : α} {es : List (κ × α)} :
    k' ∈ (insertEntry k v es).map Prod.fst ↔ k' = k ∨ k' ∈ es.map Prod.fst := by
  induction es with
  | nil => simp [insertEntry]
  | cons e rest ih =>
    obtain ⟨k₁, v₁⟩ := e
    unfold insertEntry
    split
    · rename_i h; subst h; simp
    · simp only [List.map_cons, List.mem_cons, ih]
      constructor
      · rintro (h | h | h) <;> simp_all
      · rintro (h | h | h) <;> simp_all

theorem nodup_insertEntry {k : κ} {v : α} {es : List (κ × α)}
    (h : (es.map Prod.fst).Nodup) : ((insertEntry k v es).map Prod.fst).Nodup := by
  induction es with
  | nil => simp [insertEntry]
  | cons e rest ih =>
    obtain ⟨k₁, v₁⟩ := e
    simp only [List.map_cons, List.nodup_cons] at h
    unfold insertEntry
    split
    · rename_i hk; subst hk; simpa using h
    · rename_i hk
      simp only [List.map_cons, List.nodup_cons]
      refine ⟨?_, ih h.2⟩
      rw [mem_keys_insertEntry]
      rintro (h' | h')
      · exact hk h'.symm
      · exact h.1 h'

/-- Puts a value under a key, in place of the one that is there. -/
def insert (t : Table κ α) (k : κ) (v : α) : Table κ α :=
  ⟨insertEntry k v t.entries, nodup_insertEntry t.nodup⟩

/-- Keeps the entries that satisfy `p`. -/
def filter (t : Table κ α) (p : κ → α → Bool) : Table κ α :=
  ⟨t.entries.filter fun e => p e.1 e.2, t.nodup.sublist (List.filter_sublist.map _)⟩

/-- Takes a key out. -/
def erase (t : Table κ α) (k : κ) : Table κ α := t.filter fun k' _ => k' ≠ k

/-! ## Look-ups -/

@[simp] theorem get?_empty (k : κ) : (empty : Table κ α).get? k = none := rfl

theorem lookup_insertEntry (k k' : κ) (v : α) (es : List (κ × α)) :
    lookup k' (insertEntry k v es) = if k' = k then some v else lookup k' es := by
  induction es with
  | nil => simp [insertEntry, lookup]
  | cons e rest ih =>
    obtain ⟨k₁, v₁⟩ := e
    unfold insertEntry
    split
    · rename_i h
      subst h
      by_cases h' : k' = k <;> simp [lookup, h']
    · rename_i h
      simp only [lookup, ih]
      by_cases h₁ : k' = k₁
      · subst h₁
        simp [show ¬ k' = k from fun h' => h h'.symm]
      · simp [h₁]

theorem get?_insert (t : Table κ α) (k k' : κ) (v : α) :
    (t.insert k v).get? k' = if k' = k then some v else t.get? k' :=
  lookup_insertEntry k k' v t.entries

theorem lookup_eq_some_iff {k : κ} {v : α} {es : List (κ × α)}
    (h : (es.map Prod.fst).Nodup) : lookup k es = some v ↔ (k, v) ∈ es := by
  induction es with
  | nil => simp [lookup]
  | cons e rest ih =>
    obtain ⟨k₁, v₁⟩ := e
    simp only [List.map_cons, List.nodup_cons] at h
    unfold lookup
    split
    · rename_i hk
      subst hk
      simp only [Option.some.injEq, List.mem_cons, Prod.mk.injEq, true_and]
      constructor
      · intro hv; exact Or.inl hv.symm
      · rintro (hv | hv)
        · exact hv.symm
        · exact absurd (List.mem_map_of_mem (f := Prod.fst) hv) h.1
    · rename_i hk
      simp only [ih h.2, List.mem_cons, Prod.mk.injEq]
      constructor
      · exact Or.inr
      · rintro (hv | hv)
        · exact absurd hv.1 hk
        · exact hv

theorem get?_eq_some_iff (t : Table κ α) (k : κ) (v : α) :
    t.get? k = some v ↔ (k, v) ∈ t.entries :=
  lookup_eq_some_iff t.nodup

theorem mem_keys_iff (t : Table κ α) (k : κ) : k ∈ t.keys ↔ ∃ v, t.get? k = some v := by
  simp only [keys, List.mem_map, Prod.exists, exists_and_right, exists_eq_right, get?_eq_some_iff]

theorem get?_eq_none_iff (t : Table κ α) (k : κ) : t.get? k = none ↔ k ∉ t.keys := by
  rw [mem_keys_iff]
  cases t.get? k <;> simp

theorem get?_filter_eq_some_iff (t : Table κ α) (p : κ → α → Bool) (k : κ) (v : α) :
    (t.filter p).get? k = some v ↔ t.get? k = some v ∧ p k v = true := by
  simp [get?_eq_some_iff, filter]

theorem get?_filter (t : Table κ α) (p : κ → α → Bool) (k : κ) :
    (t.filter p).get? k = (t.get? k).filter (p k) := by
  apply Option.ext
  intro v
  rw [get?_filter_eq_some_iff, Option.filter_eq_some_iff]

theorem get?_erase (t : Table κ α) (k k' : κ) :
    (t.erase k).get? k' = if k' = k then none else t.get? k' := by
  rw [erase, get?_filter]
  by_cases h : k' = k <;> simp [h, Option.filter]
  · cases t.get? k <;> rfl
  · cases t.get? k' <;> rfl

theorem size_erase_lt (t : Table κ α) {k : κ} {v : α} (h : t.get? k = some v) :
    (t.erase k).size < t.size := by
  have hm : (k, v) ∈ t.entries := (t.get?_eq_some_iff k v).mp h
  exact List.length_filter_lt_length_iff_exists.mpr ⟨(k, v), hm, by simp⟩

/-- Puts a value under a key unless the key is there. -/
def insertNew (t : Table κ α) (k : κ) (v : α) : Table κ α :=
  if t.contains k then t else t.insert k v

theorem get?_insertNew (t : Table κ α) (k k' : κ) (v : α) :
    (t.insertNew k v).get? k' =
      if k' = k then (t.get? k).or (some v) else t.get? k' := by
  unfold insertNew contains
  cases h : t.get? k with
  | none =>
    simp only [Option.isSome_none, Bool.false_eq_true, if_false, get?_insert, Option.none_or]
  | some w =>
    simp only [Option.isSome_some, if_true, Option.some_or]
    split
    · rename_i hk; rw [hk, h]
    · rfl

end Lookup

/-- Applies a function to every value. -/
def mapValues (t : Table κ α) (f : α → β) : Table κ β :=
  ⟨t.entries.map fun e => (e.1, f e.2), by
    have h : (t.entries.map fun e => (e.1, f e.2)).map Prod.fst = t.entries.map Prod.fst := by
      simp
    rw [h]; exact t.nodup⟩

end Table

end DeviceEnablement
