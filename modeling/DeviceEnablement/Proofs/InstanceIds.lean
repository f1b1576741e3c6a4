/-
  Allocating and freeing instance ids.

  1. `allocate_spec`: an id that is given out was free, is below 32, and is in use from then on.
  2. `allocated_free`: an id that is given back is the only one that is no longer in use.
  3. `pool_free`, `pool_allocate_of_ne`, `pool_free_of_ne`: every endpoint has a pool of its own.
  4. `allocate_of_full`: when 32 ids are in use no more is given out.
-/
import DeviceEnablement.InstanceIds
import DeviceEnablement.Proofs.Table
import Mathlib.Data.List.Nodup
import Mathlib.Data.List.Perm.Subperm

namespace DeviceEnablement

namespace InstanceIdPool

theorem candidate_lt (pool : InstanceIdPool) (offset : Nat) : pool.candidate offset < capacity :=
  Nat.mod_lt _ (by decide)

/-- An id that is given out was free and is in use from then on. -/
theorem allocate?_spec {pool pool' : InstanceIdPool} {id : UInt8}
    (h : pool.allocate? = some (id, pool')) :
    id ∉ pool.allocated ∧ id.toNat < capacity ∧ pool'.allocated = id :: pool.allocated := by
  unfold allocate? at h
  obtain ⟨offset, hfind, heq⟩ := Option.map_eq_some_iff.mp h
  have hfree := List.find?_some hfind
  obtain ⟨hid, hpool⟩ := Prod.mk.inj heq
  subst hid hpool
  refine ⟨?_, ?_, rfl⟩
  · simpa [isInUse] using hfree
  · have hlt : pool.candidate offset < 32 := pool.candidate_lt offset
    rw [UInt8.toNat_ofNat']
    show _ < 32
    omega

end InstanceIdPool

namespace InstanceIds

theorem pool_insert (ids : InstanceIds) (eid eid' : UInt8) (pool : InstanceIdPool) :
    InstanceIds.pool { pools := ids.pools.insert eid pool } eid' =
      if eid' = eid then pool else ids.pool eid' := by
  unfold InstanceIds.pool
  rw [Table.get?_insert]
  split <;> rfl

theorem allocate_spec {ids ids' : InstanceIds} {eid id : UInt8}
    (h : ids.allocate eid = .ok (id, ids')) :
    id ∉ (ids.pool eid).allocated ∧ id.toNat < InstanceIdPool.capacity
      ∧ (ids'.pool eid).allocated = id :: (ids.pool eid).allocated := by
  unfold allocate at h
  split at h
  · rename_i pool hpool
    obtain ⟨rfl, rfl⟩ := Prod.mk.inj (Except.ok.inj h)
    rw [pool_insert, if_pos rfl]
    exact InstanceIdPool.allocate?_spec hpool
  · cases h

theorem allocated_free (ids : InstanceIds) (eid id : UInt8) :
    ((ids.free eid id).pool eid).allocated =
      (ids.pool eid).allocated.filter fun other => decide (other ≠ id) := by
  unfold free
  split
  · rename_i pool hpool
    rw [pool_insert, if_pos rfl, InstanceIds.pool, hpool]
    rfl
  · rename_i hpool
    rw [InstanceIds.pool, hpool]
    rfl

/-- Different ids below the capacity are no more than that. -/
theorem length_le_capacity {allocated : List UInt8} (hnodup : allocated.Nodup)
    (hbounded : ∀ id ∈ allocated, id.toNat < InstanceIdPool.capacity) :
    allocated.length ≤ InstanceIdPool.capacity := by
  have hnumbers : (allocated.map UInt8.toNat).Nodup :=
    hnodup.map fun _ _ => UInt8.toNat_inj.mp
  have hrange : allocated.map UInt8.toNat ⊆ List.range InstanceIdPool.capacity := by
    intro n hn
    obtain ⟨id, hid, rfl⟩ := List.mem_map.mp hn
    exact List.mem_range.mpr (hbounded id hid)
  have hlength := (hnumbers.subperm hrange).length_le
  rwa [List.length_map, List.length_range] at hlength

/-- A full pool gives out nothing. -/
theorem allocate_of_full {ids : InstanceIds} {eid : UInt8}
    (hnodup : (ids.pool eid).allocated.Nodup)
    (hbounded : ∀ id ∈ (ids.pool eid).allocated, id.toNat < InstanceIdPool.capacity)
    (hfull : InstanceIdPool.capacity ≤ ids.inUse eid) :
    ids.allocate eid = .error (.instanceIdsExhausted eid) := by
  cases hallocate : ids.allocate eid with
  | error e =>
    unfold allocate at hallocate
    split at hallocate
    · cases hallocate
    · exact hallocate.symm
  | ok result =>
    -- One more id would be one too many.
    obtain ⟨id, ids'⟩ := result
    obtain ⟨hnew, hlt, -⟩ := allocate_spec hallocate
    have hmany := length_le_capacity (List.nodup_cons.mpr ⟨hnew, hnodup⟩)
      (List.forall_mem_cons.mpr ⟨hlt, hbounded⟩)
    exact absurd hfull (Nat.not_le_of_lt hmany)

/-! ## The pools of endpoints -/

theorem pool_free (ids : InstanceIds) (eid id : UInt8) :
    (ids.free eid id).pool eid = (ids.pool eid).free id := by
  unfold free
  split
  · rename_i pool hpool
    rw [pool_insert, if_pos rfl, InstanceIds.pool, hpool]
    rfl
  · rename_i hpool
    rw [InstanceIds.pool, hpool]
    rfl

theorem pool_allocate_of_ne {ids ids' : InstanceIds} {eid eid' id : UInt8}
    (h : ids.allocate eid = .ok (id, ids')) (hne : eid' ≠ eid) :
    ids'.pool eid' = ids.pool eid' := by
  unfold allocate at h
  split at h
  · obtain ⟨rfl, rfl⟩ := Prod.mk.inj (Except.ok.inj h)
    rw [pool_insert, if_neg hne]
  · cases h

theorem pool_free_of_ne {ids : InstanceIds} {eid eid' id : UInt8} (hne : eid' ≠ eid) :
    (ids.free eid id).pool eid' = ids.pool eid' := by
  unfold free
  split
  · rw [pool_insert, if_neg hne]
  · rfl

theorem pool_release (ids : InstanceIds) (eid eid' : UInt8) :
    (ids.release eid).pool eid' = if eid' = eid then {} else ids.pool eid' := by
  unfold InstanceIds.pool release
  rw [Table.get?_erase]
  split <;> rfl

/-! ## Back and forth -/

/-- Giving back an id that was just given out leaves the ids in use as they were. -/
theorem allocated_free_allocate {ids ids' : InstanceIds} {eid id : UInt8}
    (h : ids.allocate eid = .ok (id, ids')) :
    ((ids'.free eid id).pool eid).allocated = (ids.pool eid).allocated := by
  obtain ⟨hfree, -, hallocated⟩ := allocate_spec h
  rw [allocated_free, hallocated, List.filter_cons_of_neg (by simp), List.filter_eq_self]
  intro other hother
  rw [decide_eq_true_iff]
  rintro rfl
  exact hfree hother

end InstanceIds

end DeviceEnablement
