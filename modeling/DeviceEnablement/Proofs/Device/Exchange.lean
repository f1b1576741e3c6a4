/-
  What a call of a device does to its host.

  A device takes instance ids of its own endpoint, and sends a request under each that it keeps.
  `Exchanged r new r'` says so of a whole call: `new` are the requests that were sent, each under an
  id that was free, and each outstanding from then on.  Nothing else happens to the host.

  1. `Exchanged.trans`: one after the other.
  2. `Refreshed`, `Begun`: what refreshing and beginning an operation come to.
  3. `exchanged_refresh`, `exchanged_startOperation`, `exchanged_abandon`, `exchanged_answer`: the
     calls.  An answer first gives the id of its request back.
-/
import DeviceEnablement.Proofs.Device.History

namespace DeviceEnablement.DeviceRun

/-! ## Refreshing and beginning -/

/-- What refreshing comes to: everything is cancelled, and unless the records cannot be read a
    negotiation begins, or cannot begin. -/
inductive Refreshed (setup : Setup) (r : DeviceRun) : DeviceRun → Prop
  | unread {r' : DeviceRun} (learned : (r.cancelAll .cancelled).Resembles r') :
      Refreshed setup r r'
  | negotiating {r₁ r' : DeviceRun} {result : Except Failure SessionId × DeviceRun}
      (learned : (r.cancelAll .cancelled).Resembles r₁)
      (started : Started setup r₁ .negotiation result) (settled : result.2.Resembles r') :
      Refreshed setup r r'

theorem resembles_discover (r : DeviceRun) (setup : Setup) :
    (({ r with device.state := .discovering } : DeviceRun).startSession setup
      .negotiation).2.Resembles (r.discover setup) := by
  unfold discover
  split
  · rename_i heq
    rw [heq]
    exact .of_device ⟨rfl, rfl, rfl, rfl, rfl⟩ rfl
  · rename_i heq
    rw [heq]
    exact .of_device ⟨rfl, rfl, rfl, rfl, rfl⟩ rfl

theorem refreshed_refresh (r : DeviceRun) (setup : Setup) :
    Refreshed setup r (r.refresh setup) := by
  unfold refresh
  dsimp only
  split
  · exact .unread (.of_device ⟨rfl, rfl, rfl, rfl, rfl⟩ rfl)
  · rename_i registry _
    have hread : (r.cancelAll .cancelled).Resembles { r.cancelAll .cancelled with
        device.memory.metadata := (r.cancelAll .cancelled).device.memory.metadata.clearNegotiated
        device.registry := registry } := .of_device ⟨rfl, rfl, rfl, rfl, rfl⟩ rfl
    have hturned : ∀ r₁ : DeviceRun, r₁.Resembles { r₁ with device.state := .discovering } :=
      fun r₁ => .of_device ⟨rfl, rfl, rfl, rfl, rfl⟩ rfl
    exact .negotiating
      ((hread.trans (DeviceHistory.resembles_stores _ setup)).trans (hturned _))
      (started_startSession _ setup .negotiation) (resembles_discover _ setup)

/-- The run in which the id of an operation has been given out. -/
def counted (r : DeviceRun) : DeviceRun :=
  { r with device.nextOperationId := Device.operationIdAfter r.device.nextOperationId }

theorem resembles_counted (r : DeviceRun) : r.Resembles r.counted :=
  .of_device ⟨rfl, rfl, rfl, rfl, rfl⟩ rfl

/-- What beginning an operation comes to: it is refused before it gets an id, or its session begins,
    or cannot begin. -/
inductive Begun (setup : Setup) (r : DeviceRun) (request : OperationRequest) :
    Except Failure SessionId × DeviceRun → Prop
  | refused (e : Failure) : Begun setup r request (.error e, r)
  | started {result : Except Failure SessionId × DeviceRun} (ready : r.device.state = .ready)
      (started : Started setup r.counted (.operation request r.device.nextOperationId) result) :
      Begun setup r request result

theorem begun_startOperation (r : DeviceRun) (setup : Setup) (request : OperationRequest) :
    Begun setup r request (r.startOperation setup request) := by
  unfold startOperation
  split
  · exact .refused _
  · rename_i hserving
    have hready : r.device.state = .ready := by
      simpa [DeviceState.acceptsOperations] using hserving
    split
    · exact .refused _
    · exact .started hready (started_startSession r.counted setup _)

/-! ## Exchanges -/

/-- The instance ids of the endpoint of a device that are in use. -/
def idsInUse (r : DeviceRun) : List UInt8 := (r.host.ids.pool r.device.eid).allocated

/-- Whether the device has come from `r` to `r'` by sending the requests `new`, the latest in front,
    as far as its host and its outstanding requests are concerned. -/
structure Exchanged (r : DeviceRun) (new : List SentRequest) (r' : DeviceRun) : Prop where
  eid : r'.device.eid = r.device.eid
  own : ∀ request ∈ new, request.eid = r.device.eid
  bounded : ∀ request ∈ new, request.instanceId.toNat < InstanceIdPool.capacity
  sent : r'.host.transport.sent = new ++ r.host.transport.sent
  allocated : r'.idsInUse = new.map (·.instanceId) ++ r.idsInUse
  /-- No id is given out twice. -/
  nodup : r.idsInUse.Nodup → r'.idsInUse.Nodup
  elsewhere : ∀ eid, eid ≠ r.device.eid →
    (r'.host.ids.pool eid).allocated = (r.host.ids.pool eid).allocated
  pending : r.Respected r.host →
    r'.device.pending.keys = r.device.pending.keys ++ (new.map (·.instanceId)).reverse

variable {setup : Setup} {r r' r'' : DeviceRun} {id : SessionId} {s : Session} {out : Outgoing}
  {new new' : List SentRequest}

/-- What sends nothing. -/
theorem exchanged_nil (heid : r'.device.eid = r.device.eid)
    (hpending : r'.device.pending = r.device.pending) (hhost : r.host.Undisturbed r'.host) :
    Exchanged r [] r' where
  eid := heid
  own _ hmem := absurd hmem List.not_mem_nil
  bounded _ hmem := absurd hmem List.not_mem_nil
  sent := hhost.sent
  allocated := by
    unfold idsInUse
    rw [heid]
    exact hhost.allocated _
  nodup := by
    unfold idsInUse
    rw [heid, hhost.allocated]
    exact id
  elsewhere eid _ := hhost.allocated eid
  pending _ := by
    rw [hpending]
    exact (List.append_nil _).symm

theorem exchanged_same (heid : r'.device.eid = r.device.eid)
    (hpending : r'.device.pending = r.device.pending) (hhost : r'.host = r.host) :
    Exchanged r [] r' :=
  exchanged_nil heid hpending (hhost ▸ ⟨fun _ => rfl, rfl⟩)

theorem Exchanged.respected (h : Exchanged r new r') (hr : r.Respected r.host) :
    r'.Respected r'.host := by
  intro k hk
  show k ∈ r'.idsInUse
  rw [h.pending hr, List.mem_append, List.mem_reverse] at hk
  rw [h.allocated, List.mem_append]
  rcases hk with hold | hnew
  · exact Or.inr (hr k hold)
  · exact Or.inl hnew

theorem Exchanged.trans (h : Exchanged r new r') (h' : Exchanged r' new' r'') :
    Exchanged r (new' ++ new) r'' where
  eid := h'.eid.trans h.eid
  own := by
    intro request hmem
    rcases List.mem_append.mp hmem with hmem | hmem
    · exact (h'.own request hmem).trans h.eid
    · exact h.own request hmem
  bounded := by
    intro request hmem
    rcases List.mem_append.mp hmem with hmem | hmem
    · exact h'.bounded request hmem
    · exact h.bounded request hmem
  sent := by rw [h'.sent, h.sent, List.append_assoc]
  allocated := by rw [h'.allocated, h.allocated, List.map_append, List.append_assoc]
  nodup hn := h'.nodup (h.nodup hn)
  elsewhere eid hne := (h'.elsewhere eid (h.eid ▸ hne)).trans (h.elsewhere eid hne)
  pending hr := by
    rw [h'.pending (h.respected hr), h.pending hr, List.map_append, List.reverse_append,
      List.append_assoc]

/-- A request that is sent takes an id that was free. -/
theorem Sent.exchanged (h : Sent r id out r') : ∃ request, Exchanged r [request] r' := by
  cases h with
  | @intro instanceId ids message transport hallocate _ haccepted =>
    obtain ⟨hnew, hlt, hids⟩ := InstanceIds.allocate_spec hallocate
    refine ⟨_, ⟨rfl, ?_, ?_, Transport.sent_of_accepted haccepted, hids, ?_, ?_, ?_⟩⟩
    · intro request hmem
      rw [List.mem_singleton.mp hmem]
    · intro request hmem
      rw [List.mem_singleton.mp hmem]
      exact hlt
    · intro hn
      show (ids.pool r.device.eid).allocated.Nodup
      rw [hids]
      exact List.nodup_cons.mpr ⟨hnew, hn⟩
    · intro eid hne
      show (ids.pool eid).allocated = _
      rw [InstanceIds.pool_allocate_of_ne hallocate hne]
    · intro hr
      exact Table.keys_insert
        ((Table.get?_eq_none_iff _ _).mpr fun hk => hnew (hr instanceId hk)) _

theorem Resembles.exchanged (h : r.Resembles r') : Exchanged r [] r' :=
  exchanged_nil h.eid h.traffic.pending h.host

theorem Placed.exchanged (h : Placed r id out r') : ∃ new, Exchanged r new r' := by
  cases h with
  | sent _ hsent =>
    obtain ⟨request, h⟩ := hsent.exchanged
    exact ⟨_, h⟩
  | queued => exact ⟨[], exchanged_same rfl rfl rfl⟩

theorem Started.exchanged {result : Except Failure SessionId × DeviceRun}
    (h : Started setup r s result) : ∃ new, Exchanged r new result.2 := by
  cases h with
  | @placed _ s' memory _ _ hplaced =>
    have hkept : Exchanged r [] ((r.begun memory).keepSession r.newId s') :=
      exchanged_same rfl rfl rfl
    obtain ⟨new, h⟩ := hplaced.exchanged
    exact ⟨_, hkept.trans h⟩
  | refused => exact ⟨[], exchanged_same rfl rfl rfl⟩
  | unsent _ _ halike => exact ⟨[], exchanged_nil rfl rfl halike⟩

theorem Closed.exchanged (h : Closed r id s r') : Exchanged r [] r' := by
  cases h <;> exact exchanged_same rfl rfl rfl

theorem Move.exchanged (h : Move setup r r') : ∃ new, Exchanged r new r' := by
  cases h with
  | turn => exact ⟨[], exchanged_same rfl rfl rfl⟩
  | download hstarted => exact hstarted.exchanged
  | @released _ _ _ rest _ _ _ hsent =>
    have hpopped : Exchanged r [] { r with device.waiting := rest } :=
      exchanged_same rfl rfl rfl
    obtain ⟨request, h⟩ := hsent.exchanged
    exact ⟨_, hpopped.trans h⟩
  | @unsent _ _ _ rest _ host _ _ _ halike hclosed =>
    have hrefused : Exchanged r [] { r with host, device.waiting := rest } :=
      exchanged_nil rfl rfl halike
    exact ⟨_, hrefused.trans hclosed.exchanged⟩
  | skipped => exact ⟨[], exchanged_same rfl rfl rfl⟩

theorem Moves.exchanged (h : Moves setup r r') : ∃ new, Exchanged r new r' := by
  induction h with
  | refl => exact ⟨[], exchanged_same rfl rfl rfl⟩
  | tail _ hmove ih =>
    obtain ⟨new, h⟩ := ih
    obtain ⟨new', h'⟩ := hmove.exchanged
    exact ⟨_, h.trans h'⟩

theorem Answered.exchanged {request : PendingRequest} (h : Answered setup r request r') :
    ∃ new, Exchanged r new r' := by
  cases h with
  | stale => exact ⟨[], exchanged_same rfl rfl rfl⟩
  | orphan => exact ⟨[], exchanged_same rfl rfl rfl⟩
  | @continued s s' memory _ _ _ _ _ _ _ hplaced =>
    have hkept : Exchanged r [] (({ r with device.memory := memory } : DeviceRun).keepSession
        request.session s') := exchanged_same rfl rfl rfl
    obtain ⟨new, h⟩ := hplaced.exchanged
    exact ⟨_, hkept.trans h⟩
  | @closed s memory host _ _ _ halike hclosed =>
    have hlearned : Exchanged r [] { r with host, device.memory := memory } :=
      exchanged_nil rfl rfl halike
    exact ⟨_, hlearned.trans hclosed.exchanged⟩

/-! ## Calls -/

theorem exchanged_cancelAll (r : DeviceRun) (state : SessionState) :
    Exchanged r [] (r.cancelAll state) := exchanged_same rfl rfl rfl

theorem exchanged_refresh (r : DeviceRun) (setup : Setup) :
    ∃ new, Exchanged r new (r.refresh setup) := by
  have hcancelled := exchanged_cancelAll r .cancelled
  cases refreshed_refresh r setup with
  | unread hlearned => exact ⟨_, hcancelled.trans hlearned.exchanged⟩
  | negotiating hlearned hstarted hsettled =>
    obtain ⟨new, h⟩ := hstarted.exchanged
    exact ⟨_, (hcancelled.trans hlearned.exchanged).trans (h.trans hsettled.exchanged)⟩

theorem exchanged_startOperation (r : DeviceRun) (setup : Setup) (request : OperationRequest) :
    ∃ new, Exchanged r new (r.startOperation setup request).2 := by
  have hbegun := begun_startOperation r setup request
  generalize r.startOperation setup request = result at hbegun
  cases hbegun with
  | refused => exact ⟨[], exchanged_same rfl rfl rfl⟩
  | started _ hstarted =>
    obtain ⟨new, h⟩ := hstarted.exchanged
    exact ⟨_, r.resembles_counted.exchanged.trans h⟩

theorem exchanged_abandon (r : DeviceRun) (id : SessionId) (state : SessionState) :
    Exchanged r [] (r.abandon id state).2 := by
  have habandoned := abandoned_abandon r id state
  generalize r.abandon id state = result at habandoned
  cases habandoned <;> exact exchanged_same rfl rfl rfl

/-- An answer gives the id of its request back before anything is sent. -/
theorem exchanged_answer (setup : Setup) {instanceId : UInt8} {request : PendingRequest}
    (hpending : r.device.pending.get? instanceId = some request) (message : Option Bytes) :
    ∃ new, Exchanged (r.freed instanceId) new (r.handleResponse setup instanceId message) := by
  obtain ⟨r₁, hanswered, hmoves⟩ := answered_handleResponse setup hpending message
  obtain ⟨new, h⟩ := hanswered.exchanged
  obtain ⟨new', h'⟩ := hmoves.exchanged
  exact ⟨_, h.trans h'⟩

end DeviceEnablement.DeviceRun
