/-
  Instance ids: the numbers by which an endpoint tells its outstanding requests apart.

  Each endpoint has a pool of 32.  Allocation goes round: it tries the ids from the one behind the
  last one it gave, so that an id is not given again at once.  Freeing an id that is not allocated
  changes nothing.
-/
import DeviceEnablement.Failure
import DeviceEnablement.Table

namespace DeviceEnablement

/-- The instance ids of one endpoint. -/
structure InstanceIdPool where
  /-- The ids in use, the one given last in front. -/
  allocated : List UInt8 := []
  /-- The id to try first. -/
  cursor : Nat := 0
  deriving DecidableEq

namespace InstanceIdPool

/-- The number of ids of an endpoint. -/
def capacity : Nat := 32

/-- The id that is tried after `offset` others. -/
def candidate (pool : InstanceIdPool) (offset : Nat) : Nat := (pool.cursor + offset) % capacity

/-- Whether an id is in use. -/
def isInUse (pool : InstanceIdPool) (id : Nat) : Bool := pool.allocated.contains (.ofNat id)

/-- The first free id from the cursor on, and the pool without it. -/
def allocate? (pool : InstanceIdPool) : Option (UInt8 × InstanceIdPool) :=
  let offset := (List.range capacity).find? fun offset => !pool.isInUse (pool.candidate offset)
  offset.map fun offset =>
    let id := pool.candidate offset
    (.ofNat id, { allocated := .ofNat id :: pool.allocated, cursor := (id + 1) % capacity })

/-- The pool with an id given back. -/
def free (pool : InstanceIdPool) (id : UInt8) : InstanceIdPool :=
  { pool with allocated := pool.allocated.filter (· ≠ id) }

end InstanceIdPool

/-- The instance ids of every endpoint. -/
structure InstanceIds where
  pools : Table UInt8 InstanceIdPool := {}

namespace InstanceIds

/-- The pool of an endpoint. -/
def pool (ids : InstanceIds) (eid : UInt8) : InstanceIdPool := (ids.pools.get? eid).getD {}

/-- Allocates an id for an endpoint. -/
def allocate (ids : InstanceIds) (eid : UInt8) : Except Failure (UInt8 × InstanceIds) :=
  match (ids.pool eid).allocate? with
  | some (id, pool) => .ok (id, { pools := ids.pools.insert eid pool })
  | none => .error (.instanceIdsExhausted eid)

/-- Gives an id of an endpoint back. -/
def free (ids : InstanceIds) (eid id : UInt8) : InstanceIds :=
  match ids.pools.get? eid with
  | some pool => { pools := ids.pools.insert eid (pool.free id) }
  | none => ids

/-- The number of ids of an endpoint that are in use. -/
def inUse (ids : InstanceIds) (eid : UInt8) : Nat := (ids.pool eid).allocated.length

/-- Forgets which ids of an endpoint are in use. -/
def release (ids : InstanceIds) (eid : UInt8) : InstanceIds := { pools := ids.pools.erase eid }

end InstanceIds

end DeviceEnablement
