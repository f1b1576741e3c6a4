/-
  The instance ids of all endpoints, over any sequence of calls.

  We write down what came of every call and read off these events which ids an endpoint must have in
  use.  The pools remember less than the events say, and must agree with them.

  1. `allocate?_eq_none_iff`, `allocate?_passes`: no id is found only when all are in use, and those
     that were tried before the one that is found are in use.
  2. `IdEvent.isHeld`, `IdEvent.givenCount`, `IdEvent.returnedCount`, `IdEvent.lastGiven?`: what the
     events say about an endpoint.
  3. `InstanceIdPool.Matches`: a pool agrees with the events.  One call keeps this
     (`Matches.answer`), and so does every sequence of calls (`matches_after`).
  4. `Matches.others_held`: the search begins behind the id that was given last, so it comes back to
     that id only past all others.
  5. `after_own_calls`: an endpoint is served as if the calls about the others had not been made.
  6. `pools_accounted`: what comes of any next call, whatever the calls before it were.
-/
import DeviceEnablement.Proofs.InstanceIds

namespace DeviceEnablement

/-! ## The search -/

namespace InstanceIdPool

variable {pool pool' : InstanceIdPool} {id : UInt8}

/-- The search comes to every id. -/
theorem exists_candidate (pool : InstanceIdPool) {n : Nat} (h : n < capacity) :
    ∃ offset < capacity, pool.candidate offset = n := by
  unfold candidate capacity at *
  exact ⟨(n + (32 - pool.cursor % 32)) % 32, by omega, by omega⟩

theorem toNat_candidate (pool : InstanceIdPool) (offset : Nat) :
    (UInt8.ofNat (pool.candidate offset)).toNat = pool.candidate offset :=
  UInt8.toNat_ofNat_of_lt' (Nat.lt_trans (pool.candidate_lt offset) (by decide))

theorem isInUse_iff (pool : InstanceIdPool) (id : UInt8) :
    pool.isInUse id.toNat = true ↔ id ∈ pool.allocated := by
  unfold isInUse
  rw [UInt8.ofNat_toNat, List.contains_iff_mem]

/-- No id is found exactly when all of them are in use. -/
theorem allocate?_eq_none_iff :
    pool.allocate? = none ↔ ∀ id : UInt8, id.toNat < capacity → id ∈ pool.allocated := by
  unfold allocate?
  simp only [Option.map_eq_none_iff, List.find?_range_eq_none, Bool.not_not]
  constructor
  · intro h id hid
    obtain ⟨offset, hoffset, hcandidate⟩ := pool.exists_candidate hid
    have hused := h offset hoffset
    rwa [hcandidate, isInUse_iff] at hused
  · intro h offset _
    rw [← toNat_candidate, isInUse_iff]
    exact h _ ((pool.toNat_candidate offset).symm ▸ pool.candidate_lt offset)

/-- Every id that was tried before the one that is found is in use; the next search begins behind
    that one. -/
theorem allocate?_passes (h : pool.allocate? = some (id, pool')) :
    pool'.cursor = (id.toNat + 1) % capacity ∧
      ∃ offset < capacity, pool.candidate offset = id.toNat ∧
        ∀ earlier < offset, pool.isInUse (pool.candidate earlier) = true := by
  unfold allocate? at h
  obtain ⟨offset, hfind, heq⟩ := Option.map_eq_some_iff.mp h
  obtain ⟨rfl, rfl⟩ := Prod.mk.inj heq
  obtain ⟨-, hoffset, hearlier⟩ := List.find?_range_eq_some.mp hfind
  refine ⟨by rw [toNat_candidate], offset, List.mem_range.mp hoffset, (pool.toNat_candidate _).symm,
    fun earlier hlt => ?_⟩
  simpa using hearlier earlier hlt

/-- A search that begins behind an id and comes back to it has passed all others. -/
theorem others_of_allocate? {last : UInt8} (hcursor : pool.cursor = (last.toNat + 1) % capacity)
    (h : pool.allocate? = some (last, pool')) {other : UInt8} (hother : other.toNat < capacity)
    (hne : other ≠ last) : other ∈ pool.allocated := by
  obtain ⟨-, offset, hoffset, hlast, hearlier⟩ := allocate?_passes h
  obtain ⟨tried, htried, hcandidate⟩ := pool.exists_candidate hother
  have hbefore : tried < offset := by
    have hdifferent : other.toNat ≠ last.toNat := fun heq => hne (UInt8.toNat_inj.mp heq)
    unfold candidate capacity at *
    omega
  have hused := hearlier tried hbefore
  rwa [hcandidate, isInUse_iff] at hused

/-- The pool is smaller by an id that is given back, if that was in use. -/
theorem length_free (hnodup : pool.allocated.Nodup) (id : UInt8) :
    (pool.free id).allocated.length + (if id ∈ pool.allocated then 1 else 0) =
      pool.allocated.length := by
  have hsplit : pool.allocated.length = (pool.free id).allocated.length +
      pool.allocated.countP (fun other => decide (¬ decide (other ≠ id) = true)) := by
    rw [free, ← List.countP_eq_length_filter]
    exact List.length_eq_countP_add_countP _
  rw [← hnodup.count, hsplit]
  simp [List.count, BEq.beq]

end InstanceIdPool

/-! ## Calls and events -/

/-- What is asked of the instance ids. -/
inductive IdCall
  | allocate (eid : UInt8)
  | free (eid id : UInt8)
  | release (eid : UInt8)

/-- The endpoint that a call is about. -/
def IdCall.eid : IdCall → UInt8
  | allocate eid => eid
  | free eid _ => eid
  | release eid => eid

/-- What came of a call. -/
inductive IdEvent
  | given (eid id : UInt8)
  /-- No id was left. -/
  | refused (eid : UInt8)
  /-- An id was given back, be it in use or not. -/
  | returned (eid id : UInt8)
  | released (eid : UInt8)

namespace IdEvent

/-- The endpoint that an event is about. -/
def eid : IdEvent → UInt8
  | given eid _ => eid
  | refused eid => eid
  | returned eid _ => eid
  | released eid => eid

/-! The events of the past stand with the latest in front. -/

/-- Whether an id was given to an endpoint and has not come back since. -/
def isHeld (eid id : UInt8) : List IdEvent → Bool
  | [] => false
  | given eid' id' :: past => (eid' = eid && id' = id) || isHeld eid id past
  | refused _ :: past => isHeld eid id past
  | returned eid' id' :: past => !(eid' = eid && id' = id) && isHeld eid id past
  | released eid' :: past => eid' ≠ eid && isHeld eid id past

/-- How many ids were given to an endpoint since it was released. -/
def givenCount (eid : UInt8) : List IdEvent → Nat
  | [] => 0
  | given eid' _ :: past => givenCount eid past + if eid' = eid then 1 else 0
  | refused _ :: past => givenCount eid past
  | returned _ _ :: past => givenCount eid past
  | released eid' :: past => if eid' = eid then 0 else givenCount eid past

/-- How many ids in use an endpoint has given back since it was released. -/
def returnedCount (eid : UInt8) : List IdEvent → Nat
  | [] => 0
  | given _ _ :: past => returnedCount eid past
  | refused _ :: past => returnedCount eid past
  | returned eid' id :: past =>
    returnedCount eid past + if eid' = eid ∧ isHeld eid id past = true then 1 else 0
  | released eid' :: past => if eid' = eid then 0 else returnedCount eid past

/-- The id that was given last to an endpoint, if one was since it was released. -/
def lastGiven? (eid : UInt8) : List IdEvent → Option UInt8
  | [] => none
  | given eid' id :: past => if eid' = eid then some id else lastGiven? eid past
  | refused _ :: past => lastGiven? eid past
  | returned _ _ :: past => lastGiven? eid past
  | released eid' :: past => if eid' = eid then none else lastGiven? eid past

end IdEvent

open IdEvent (isHeld givenCount returnedCount lastGiven?)

/-! ## Pools -/

namespace InstanceIdPool

variable {pool : InstanceIdPool} {eid : UInt8} {past : List IdEvent} {event : IdEvent}

/-- What comes of a call at the pool of its endpoint. -/
def answer (pool : InstanceIdPool) : IdCall → IdEvent × InstanceIdPool
  | .allocate eid =>
    match pool.allocate? with
    | some (id, pool) => (.given eid id, pool)
    | none => (.refused eid, pool)
  | .free eid id => (.returned eid id, pool.free id)
  | .release eid => (.released eid, {})

theorem answer_of_some {pool' : InstanceIdPool} {id : UInt8}
    (h : pool.allocate? = some (id, pool')) (eid : UInt8) :
    pool.answer (.allocate eid) = (.given eid id, pool') := by
  simp [answer, h]

theorem answer_of_none (h : pool.allocate? = none) (eid : UInt8) :
    pool.answer (.allocate eid) = (.refused eid, pool) := by
  simp [answer, h]

theorem eid_answer (pool : InstanceIdPool) (call : IdCall) :
    (pool.answer call).1.eid = call.eid := by
  cases call with
  | allocate eid =>
    cases hfound : pool.allocate? with
    | none =>
      rw [answer_of_none hfound]
      rfl
    | some result =>
      rw [answer_of_some hfound]
      rfl
  | free eid id => rfl
  | release eid => rfl

/-- Whether a pool agrees with what was done about its endpoint. -/
structure Matches (pool : InstanceIdPool) (eid : UInt8) (past : List IdEvent) : Prop where
  held : ∀ id, id ∈ pool.allocated ↔ isHeld eid id past = true
  nodup : pool.allocated.Nodup
  bounded : ∀ id ∈ pool.allocated, id.toNat < capacity
  balance : pool.allocated.length + returnedCount eid past = givenCount eid past
  cursor : ∀ id, lastGiven? eid past = some id → pool.cursor = (id.toNat + 1) % capacity

theorem matches_nothing (eid : UInt8) : Matches {} eid [] where
  held _ := by simp [isHeld]
  nodup := List.nodup_nil
  bounded _ h := absurd h List.not_mem_nil
  balance := rfl
  cursor _ h := nomatch h

namespace Matches

/-- What is done about another endpoint makes no difference. -/
theorem other (h : pool.Matches eid past) (hother : event.eid ≠ eid) :
    pool.Matches eid (event :: past) := by
  cases event with
  | given eid' id =>
    replace hother : eid' ≠ eid := hother
    exact ⟨by simpa [isHeld, hother] using h.held, h.nodup, h.bounded,
      by simpa [givenCount, returnedCount, hother] using h.balance,
      by simpa [lastGiven?, hother] using h.cursor⟩
  | refused eid' => exact ⟨h.held, h.nodup, h.bounded, h.balance, h.cursor⟩
  | returned eid' id =>
    replace hother : eid' ≠ eid := hother
    exact ⟨by simpa [isHeld, hother] using h.held, h.nodup, h.bounded,
      by simpa [givenCount, returnedCount, hother] using h.balance, h.cursor⟩
  | released eid' =>
    replace hother : eid' ≠ eid := hother
    exact ⟨by simpa [isHeld, hother] using h.held, h.nodup, h.bounded,
      by simpa [givenCount, returnedCount, hother] using h.balance,
      by simpa [lastGiven?, hother] using h.cursor⟩

theorem given {pool' : InstanceIdPool} {id : UInt8} (h : pool.Matches eid past)
    (hfound : pool.allocate? = some (id, pool')) : pool'.Matches eid (.given eid id :: past) := by
  obtain ⟨hnew, hlt, hallocated⟩ := allocate?_spec hfound
  constructor
  case held =>
    intro other
    rw [hallocated, List.mem_cons, h.held, eq_comm (a := other)]
    simp [isHeld]
  case nodup =>
    rw [hallocated]
    exact List.nodup_cons.mpr ⟨hnew, h.nodup⟩
  case bounded =>
    rw [hallocated]
    exact List.forall_mem_cons.mpr ⟨hlt, h.bounded⟩
  case balance =>
    have hbalance := h.balance
    simp only [hallocated, List.length_cons, returnedCount, givenCount, if_pos]
    omega
  case cursor =>
    intro last hlast
    cases (if_pos rfl).symm.trans hlast
    exact (allocate?_passes hfound).1

/-- An id that comes back is missing from the pool if it was in use; one that was not changes
    nothing. -/
theorem returned (h : pool.Matches eid past) (id : UInt8) :
    (pool.free id).Matches eid (.returned eid id :: past) := by
  constructor
  case held =>
    intro other
    have hsame : id = other ↔ other = id := eq_comm
    rw [free, List.mem_filter, h.held, and_comm]
    simp [isHeld, hsame]
  case nodup => exact h.nodup.filter _
  case bounded => exact fun other hother => h.bounded other (List.mem_of_mem_filter hother)
  case balance =>
    have hbalance := h.balance
    rw [← length_free h.nodup id] at hbalance
    simp only [returnedCount, givenCount, true_and, ← h.held]
    omega
  case cursor => exact h.cursor

theorem released (eid : UInt8) (past : List IdEvent) :
    Matches {} eid (.released eid :: past) where
  held _ := by simp [isHeld]
  nodup := List.nodup_nil
  bounded _ h := absurd h List.not_mem_nil
  balance := by simp [returnedCount, givenCount]
  cursor _ h := by simp [lastGiven?] at h

/-- What comes of a call is what the pool agrees with from then on. -/
theorem answer {call : IdCall} (h : pool.Matches call.eid past) :
    (pool.answer call).2.Matches call.eid ((pool.answer call).1 :: past) := by
  cases call with
  | allocate eid =>
    cases hfound : pool.allocate? with
    | none =>
      rw [answer_of_none hfound]
      exact ⟨h.held, h.nodup, h.bounded, h.balance, h.cursor⟩
    | some result =>
      rw [answer_of_some hfound]
      exact h.given hfound
  | free eid id => exact h.returned id
  | release eid => exact released eid past

/-- An id that is given was not in use. -/
theorem isHeld_of_allocate? {pool' : InstanceIdPool} {id : UInt8} (h : pool.Matches eid past)
    (hfound : pool.allocate? = some (id, pool')) : isHeld eid id past = false := by
  obtain ⟨hnew, -, -⟩ := allocate?_spec hfound
  rwa [h.held, Bool.not_eq_true] at hnew

theorem allocate?_eq_none_iff (h : pool.Matches eid past) :
    pool.allocate? = none ↔ ∀ id : UInt8, id.toNat < capacity → isHeld eid id past = true := by
  rw [InstanceIdPool.allocate?_eq_none_iff]
  exact forall_congr' fun id => imp_congr_right fun _ => h.held id

/-- The id that was given last is given again only when all others are in use. -/
theorem others_held {pool' : InstanceIdPool} {last : UInt8} (h : pool.Matches eid past)
    (hlast : lastGiven? eid past = some last) (hfound : pool.allocate? = some (last, pool'))
    {other : UInt8} (hother : other.toNat < capacity) (hne : other ≠ last) :
    isHeld eid other past = true :=
  (h.held other).mp (others_of_allocate? (h.cursor last hlast) hfound hother hne)

end Matches

end InstanceIdPool

/-! ## All endpoints -/

namespace InstanceIds

variable {ids ids' : InstanceIds} {eid id : UInt8}

theorem allocate_ok_iff :
    ids.allocate eid = .ok (id, ids') ↔
      ∃ pool, (ids.pool eid).allocate? = some (id, pool) ∧
        ids' = { pools := ids.pools.insert eid pool } := by
  unfold allocate
  cases (ids.pool eid).allocate? with
  | none => simp
  | some result =>
    obtain ⟨found, pool⟩ := result
    simp only [Except.ok.injEq, Prod.mk.injEq, Option.some.injEq]
    constructor
    · rintro ⟨rfl, rfl⟩
      exact ⟨pool, ⟨rfl, rfl⟩, rfl⟩
    · rintro ⟨pool, ⟨rfl, rfl⟩, rfl⟩
      exact ⟨rfl, rfl⟩

theorem allocate_error_iff {e : Failure} :
    ids.allocate eid = .error e ↔
      (ids.pool eid).allocate? = none ∧ e = .instanceIdsExhausted eid := by
  unfold allocate
  cases (ids.pool eid).allocate? with
  | none => simp [eq_comm]
  | some result => simp

/-- What comes of a call. -/
def answer (ids : InstanceIds) : IdCall → IdEvent × InstanceIds
  | .allocate eid =>
    match ids.allocate eid with
    | .ok (id, ids) => (.given eid id, ids)
    | .error _ => (.refused eid, ids)
  | .free eid id => (.returned eid id, ids.free eid id)
  | .release eid => (.released eid, ids.release eid)

theorem answer_of_ok (h : ids.allocate eid = .ok (id, ids')) :
    ids.answer (.allocate eid) = (.given eid id, ids') := by
  simp [answer, h]

theorem answer_of_error {e : Failure} (h : ids.allocate eid = .error e) :
    ids.answer (.allocate eid) = (.refused eid, ids) := by
  simp [answer, h]

theorem pool_free_eq_ite (ids : InstanceIds) (eid id eid' : UInt8) :
    (ids.free eid id).pool eid' = if eid' = eid then (ids.pool eid).free id else ids.pool eid' := by
  split
  · rename_i heid
    rw [heid, pool_free]
  · rename_i hother
    exact pool_free_of_ne hother

/-- The pool of its endpoint answers a call, and the others stay as they are. -/
theorem answer_eq (ids : InstanceIds) (call : IdCall) :
    (ids.answer call).1 = ((ids.pool call.eid).answer call).1 ∧
    ∀ eid, (ids.answer call).2.pool eid =
      if eid = call.eid then ((ids.pool call.eid).answer call).2 else ids.pool eid := by
  cases call with
  | allocate eid =>
    show _ = ((ids.pool eid).answer (.allocate eid)).1 ∧ ∀ eid', _ =
      if eid' = eid then ((ids.pool eid).answer (.allocate eid)).2 else ids.pool eid'
    cases hfound : (ids.pool eid).allocate? with
    | none =>
      rw [answer_of_error (allocate_error_iff.mpr ⟨hfound, rfl⟩),
        InstanceIdPool.answer_of_none hfound]
      refine ⟨rfl, fun eid' => ?_⟩
      split
      · rename_i heid
        rw [heid]
      · rfl
    | some result =>
      rw [answer_of_ok (allocate_ok_iff.mpr ⟨result.2, hfound, rfl⟩),
        InstanceIdPool.answer_of_some hfound]
      exact ⟨rfl, fun eid' => pool_insert ids eid eid' result.2⟩
  | free eid id => exact ⟨rfl, fun eid' => pool_free_eq_ite ids eid id eid'⟩
  | release eid => exact ⟨rfl, fun eid' => pool_release ids eid eid'⟩

/-- What has come of calls; of these, too, the latest stands in front. -/
def after : List IdCall → InstanceIds
  | [] => {}
  | call :: earlier => ((after earlier).answer call).2

/-- The events of calls. -/
def events : List IdCall → List IdEvent
  | [] => []
  | call :: earlier => ((after earlier).answer call).1 :: events earlier

/-- Whatever the calls are, each pool agrees with what came of them. -/
theorem matches_after (calls : List IdCall) (eid : UInt8) :
    ((after calls).pool eid).Matches eid (events calls) := by
  induction calls with
  | nil => exact InstanceIdPool.matches_nothing eid
  | cons call earlier ih =>
    obtain ⟨hevent, hpool⟩ := (after earlier).answer_eq call
    show (((after earlier).answer call).2.pool eid).Matches eid
      (((after earlier).answer call).1 :: events earlier)
    rw [hpool, hevent]
    split
    · rename_i heid
      subst heid
      exact ih.answer
    · rename_i hother
      refine ih.other ?_
      rw [InstanceIdPool.eid_answer]
      exact Ne.symm hother

/-- An endpoint is served as if the calls about other endpoints had not been made. -/
theorem after_own_calls (calls : List IdCall) (eid : UInt8) :
    (after calls).pool eid = (after (calls.filter (·.eid = eid))).pool eid ∧
    (events calls).filter (·.eid = eid) = events (calls.filter (·.eid = eid)) := by
  induction calls with
  | nil => exact ⟨rfl, rfl⟩
  | cons call earlier ih =>
    obtain ⟨hsame, hevents⟩ := ih
    obtain ⟨hevent, hpool⟩ := (after earlier).answer_eq call
    have hevent_eid : ((after earlier).answer call).1.eid = call.eid := by
      rw [hevent, InstanceIdPool.eid_answer]
    show ((after earlier).answer call).2.pool eid = _ ∧
      (((after earlier).answer call).1 :: events earlier).filter _ = _
    by_cases hown : call.eid = eid
    · subst hown
      obtain ⟨hevent', hpool'⟩ :=
        (after (earlier.filter (·.eid = call.eid))).answer_eq call
      rw [List.filter_cons_of_pos (by simp), List.filter_cons_of_pos (by simpa using hevent_eid),
        hevents]
      show _ = ((after (earlier.filter _)).answer call).2.pool call.eid ∧
        _ = ((after (earlier.filter _)).answer call).1 :: events (earlier.filter _)
      rw [hpool, hpool', if_pos rfl, if_pos rfl, hevent, hevent', hsame]
      exact ⟨rfl, rfl⟩
    · rw [List.filter_cons_of_neg (by simpa using hown),
        List.filter_cons_of_neg (by simpa [hevent_eid] using hown), hpool, if_neg (Ne.symm hown)]
      exact ⟨hsame, hevents⟩

/-- What comes of the next call about an endpoint, and what its ids are, after any calls. -/
structure PoolsAccounted (calls : List IdCall) : Prop where
  held : ∀ eid id, id ∈ ((after calls).pool eid).allocated ↔ isHeld eid id (events calls) = true
  /-- An id that is given is one of 32, and is not in use. -/
  fresh : ∀ eid id ids, (after calls).allocate eid = .ok (id, ids) →
    id.toNat ≤ 31 ∧ isHeld eid id (events calls) = false
  /-- One is given, unless all of them are in use. -/
  refused : ∀ eid e, (after calls).allocate eid = .error e ↔
    e = .instanceIdsExhausted eid ∧
      ∀ id : UInt8, id.toNat ≤ 31 → isHeld eid id (events calls) = true
  /-- A refusal changes nothing. -/
  unchanged : ∀ eid e, (after calls).allocate eid = .error e →
    after (.allocate eid :: calls) = after calls
  /-- The ids in use are those that were given less those that came back. -/
  balance : ∀ eid, (after calls).inUse eid + returnedCount eid (events calls) =
    givenCount eid (events calls)
  /-- No endpoint notices the calls about others. -/
  own : ∀ eid, (after calls).pool eid = (after (calls.filter (·.eid = eid))).pool eid ∧
    (events calls).filter (·.eid = eid) = events (calls.filter (·.eid = eid))
  /-- The id that was given last is given again only when all others are in use. -/
  again : ∀ eid id ids, lastGiven? eid (events calls) = some id →
    (after calls).allocate eid = .ok (id, ids) →
      ∀ other : UInt8, other.toNat ≤ 31 → other ≠ id → isHeld eid other (events calls) = true

/-- Whatever is asked about whichever endpoints, the pools are as the events say. -/
theorem pools_accounted (calls : List IdCall) : PoolsAccounted calls := by
  have hmatches := matches_after calls
  constructor
  case held => exact fun eid => (hmatches eid).held
  case fresh =>
    intro eid id ids hgiven
    obtain ⟨pool, hfound, -⟩ := allocate_ok_iff.mp hgiven
    obtain ⟨-, hlt, -⟩ := InstanceIdPool.allocate?_spec hfound
    exact ⟨Nat.le_of_lt_succ hlt, (hmatches eid).isHeld_of_allocate? hfound⟩
  case refused =>
    intro eid e
    rw [allocate_error_iff, (hmatches eid).allocate?_eq_none_iff, and_comm]
    exact and_congr_right fun _ => forall_congr' fun id => imp_congr_left Nat.lt_succ_iff
  case unchanged =>
    intro eid e hrefused
    rw [after, answer_of_error hrefused]
  case balance => exact fun eid => (hmatches eid).balance
  case own => exact after_own_calls calls
  case again =>
    intro eid id ids hlast hgiven other hother hne
    obtain ⟨pool, hfound, -⟩ := allocate_ok_iff.mp hgiven
    exact (hmatches eid).others_held hlast hfound (Nat.lt_succ_of_le hother) hne

/-- All ids of an endpoint were given and the one that was given last came back: it is given again,
    and the others are in use. -/
theorem pools_accounted_full_circle :
    let calls := .free 8 31 :: List.replicate 32 (.allocate 8)
    ∃ ids, (after calls).allocate 8 = .ok (31, ids) ∧
      lastGiven? 8 (events calls) = some 31 ∧
      (∀ other : UInt8, other.toNat ≤ 31 → other ≠ 31 → isHeld 8 other (events calls) = true) ∧
      isHeld 8 31 (events calls) = false := by
  intro calls
  have hlast : lastGiven? 8 (events calls) = some 31 := by decide +kernel
  have hfound : (((after calls).pool 8).allocate?).map Prod.fst = some 31 := by decide +kernel
  obtain ⟨⟨_, pool⟩, hfound, rfl⟩ := Option.map_eq_some_iff.mp hfound
  have hgiven := allocate_ok_iff.mpr ⟨pool, hfound, rfl⟩
  have haccounted := pools_accounted calls
  exact ⟨_, hgiven, hlast, haccounted.again 8 31 _ hlast hgiven, (haccounted.fresh 8 31 _ hgiven).2⟩

end InstanceIds

end DeviceEnablement
