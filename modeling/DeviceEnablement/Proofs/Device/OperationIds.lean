/-
  The ids of operations.

  A device gives each operation that it tries to start an id of sixteen bits; behind the last one it
  begins again with 1, whether or not the operation that has this id is over.  While there are
  operations, ids and numbers of sessions are given out together, so the ids say as much as the
  numbers modulo 65535.

  1. `Device.toNat_operationIdAfter`: the id behind another one.
  2. `nextOperationId_stride`: only the start of an operation gives an id out.  `nextSession_stride`: as
     long as there are operations, nothing else gives a number to a session.
  3. `Device.Numbered`: ids and numbers are in step; so they are in every log (`Reachable.numbered`).
  4. `Attempted`: while an operation is there, no more numbers are given to sessions than operations
     were to start (`Attempted.nextSession_le`).
  5. `operation_ids_in_step`: what comes of it for two operations.
  6. `operation_id_repeated`: two live operations with one id.
-/
import DeviceEnablement.Proofs.Device.Operations
import Mathlib.Logic.Function.Iterate

namespace DeviceEnablement

/-! ## Ids -/

namespace Device

/-- Behind the last id comes 1. -/
theorem toNat_operationIdAfter (id : UInt16) :
    (operationIdAfter id).toNat = if id.toNat = 65535 then 1 else id.toNat + 1 := by
  have hlt := id.toNat_lt
  have hmax : ∀ a b : UInt16, (max a b).toNat = max a.toNat b.toNat := by
    intro a b
    show (if a ≤ b then b else a).toNat = _
    split <;> rename_i h <;> rw [UInt16.le_iff_toNat_le] at h <;> omega
  have hone : (1 : UInt16).toNat = 1 := rfl
  unfold operationIdAfter
  rw [hmax, UInt16.toNat_add, hone]
  split <;> omega

theorem operationIdAfter_ne_zero (id : UInt16) : operationIdAfter id ≠ 0 := by
  have hnext := toNat_operationIdAfter id
  intro hzero
  rw [hzero] at hnext
  change 0 = _ at hnext
  split at hnext <;> omega

theorem operationIdAfter_mod (id : UInt16) :
    (operationIdAfter id).toNat % 65535 = (id.toNat + 1) % 65535 := by
  rw [toNat_operationIdAfter]
  split <;> omega

/-- An id that is not 0 is known by its remainder. -/
theorem operationId_eq_iff {a b : UInt16} (ha : a ≠ 0) (hb : b ≠ 0) :
    a = b ↔ a.toNat % 65535 = b.toNat % 65535 := by
  have hpos : ∀ {id : UInt16}, id ≠ 0 → id.toNat ≠ 0 := fun hid hzero =>
    hid (UInt16.toNat_inj.mp hzero)
  have ha := hpos ha
  have hb := hpos hb
  have hlt := a.toNat_lt
  have hlt' := b.toNat_lt
  rw [← UInt16.toNat_inj]
  omega

end Device

/-! ## What gives ids out -/

namespace DeviceRun

variable {setup : Setup} {r r' : DeviceRun} {s : Session} {id : SessionId} {out : Outgoing}

theorem Placed.nextOperationId (h : Placed r id out r') :
    r'.device.nextOperationId = r.device.nextOperationId := by
  cases h with
  | sent _ hsent =>
    cases hsent
    rfl
  | queued => rfl

theorem Started.nextOperationId {result : Except Failure SessionId × DeviceRun}
    (h : Started setup r s result) :
    result.2.device.nextOperationId = r.device.nextOperationId := by
  cases h with
  | placed _ hplaced => exact hplaced.nextOperationId
  | refused => rfl
  | unsent => rfl

theorem Closed.nextOperationId (h : Closed r id s r') :
    r'.device.nextOperationId = r.device.nextOperationId := by
  cases h <;> rfl

theorem Move.nextOperationId (h : Move setup r r') :
    r'.device.nextOperationId = r.device.nextOperationId := by
  cases h with
  | turn => rfl
  | download hstarted => exact hstarted.nextOperationId
  | released _ _ _ hsent =>
    cases hsent
    rfl
  | unsent _ _ _ _ hclosed => exact hclosed.nextOperationId
  | skipped => rfl

theorem Moves.nextOperationId (h : Moves setup r r') :
    r'.device.nextOperationId = r.device.nextOperationId := by
  induction h with
  | refl => rfl
  | tail _ hmove ih => exact hmove.nextOperationId.trans ih

theorem Answered.nextOperationId {request : PendingRequest} (h : Answered setup r request r') :
    r'.device.nextOperationId = r.device.nextOperationId := by
  cases h with
  | stale => rfl
  | orphan => rfl
  | continued _ _ _ _ hplaced => exact hplaced.nextOperationId
  | closed _ _ _ hclosed => exact hclosed.nextOperationId

theorem nextOperationId_discover (r : DeviceRun) (setup : Setup) :
    (r.discover setup).device.nextOperationId = r.device.nextOperationId := by
  have hstarted := (started_startSession { r with device.state := .discovering } setup
    .negotiation).nextOperationId
  unfold discover
  split
  · rename_i heq
    rw [heq] at hstarted
    exact hstarted
  · rename_i heq
    rw [heq] at hstarted
    exact hstarted

theorem nextOperationId_refresh (r : DeviceRun) (setup : Setup) :
    (r.refresh setup).device.nextOperationId = r.device.nextOperationId := by
  obtain ⟨registry, -, hrefresh | hrefresh⟩ := r.refresh_cases setup
  · rw [hrefresh]
    rfl
  · obtain ⟨store, files, hstores⟩ := (r.cleared registry).stores_eq setup
    rw [hrefresh, nextOperationId_discover, hstores]
    rfl

theorem nextOperationId_abandon (r : DeviceRun) (id : SessionId) (state : SessionState) :
    (r.abandon id state).2.device.nextOperationId = r.device.nextOperationId := by
  have habandoned := r.abandoned_abandon id state
  generalize r.abandon id state = result at habandoned
  cases habandoned <;> rfl

end DeviceRun

namespace DeviceHistory

/-- Only the start of an operation gives an id out. -/
theorem nextOperationId_stride (h : DeviceHistory) (setup : Setup) {stride : Stride}
    (hother : ∀ request, stride ≠ .ask (.startOperation request)) :
    (h.stride setup stride).run.device.nextOperationId = h.run.device.nextOperationId := by
  cases stride with
  | round =>
    show (h.run.round setup).device.nextOperationId = _
    unfold DeviceRun.round
    split
    · rfl
    · rename_i hw
      split
      · rename_i hcapacity
        exact (DeviceRun.moves_sendWaiting hcapacity hw).nextOperationId
      · rfl
  | ask call =>
    cases call with
    | refresh => exact h.run.nextOperationId_refresh setup
    | disable => rfl
    | setPayloads payloads => rfl
    | startOperation request => exact absurd rfl (hother request)
    | expire id => exact h.run.nextOperationId_abandon id .timedOut
    | cancel id => exact h.run.nextOperationId_abandon id .cancelled
    | handleResponse instanceId message =>
      show (h.ask setup (.handleResponse instanceId message)).run.device.nextOperationId = _
      rcases h.run_ask_response setup instanceId message with hsame | ⟨request, hsettle⟩
      · rw [hsame]
      · obtain ⟨r₁, hanswered, hmoves⟩ :=
          (h.run.freed instanceId).answered_settle setup instanceId request message
        rw [hsettle]
        exact hmoves.nextOperationId.trans hanswered.nextOperationId

end DeviceHistory

/-! ## What gives numbers to sessions -/

namespace DeviceRun

variable {r r' : DeviceRun}

/-- On a ready device no session begins because another one has ended. -/
theorem Aftermath.nextSession {outcome : Except Failure SessionOutput} (h : Aftermath r outcome r')
    (hready : r.device.state = .ready) : r'.device.nextSession = r.device.nextSession := by
  cases h with
  | reported => rfl
  | rejected hstate | negotiated hstate | fetched hstate => cases hready.symm.trans hstate

theorem Settled.nextSession {request : PendingRequest} {body : Except Failure Bytes}
    (h : Settled r request body r') (hready : r.device.state = .ready) :
    r'.device.nextSession = r.device.nextSession := by
  cases h with
  | ignored => rfl
  | late => rfl
  | continued _ _ _ _ _ _ hplaced => exact hplaced.sameCourse.next
  | ended _ _ _ _ _ haftermath => exact haftermath.nextSession hready

theorem Rounded.nextSession (h : Rounded r r') (hready : r.device.state = .ready) :
    r'.device.nextSession = r.device.nextSession := by
  cases h with
  | resting => rfl
  | skipped => rfl
  | released _ _ _ _ hsent => exact hsent.sameCourse.next
  | unsent _ _ _ _ haftermath => exact haftermath.nextSession hready

end DeviceRun

namespace DeviceHistory

/-- On a ready device that is not refreshed, only the start of an operation gives a number to a
    session. -/
theorem nextSession_stride {h : DeviceHistory} (setup : Setup) (ho : h.run.device.Orderly)
    (hstaged : h.run.device.Staged) (hready : h.run.device.state = .ready) {stride : Stride}
    (hstays : stride ≠ .ask .refresh)
    (hother : ∀ request, stride ≠ .ask (.startOperation request)) :
    (h.stride setup stride).run.device.nextSession = h.run.device.nextSession := by
  have habandoned : ∀ id state,
      (h.run.abandon id state).2.device.nextSession = h.run.device.nextSession := by
    intro id state
    have habandoned := h.run.abandoned_abandon id state
    generalize h.run.abandon id state = result at habandoned
    cases habandoned <;> rfl
  cases stride with
  | round => exact (DeviceRun.rounded_round setup ho hstaged).nextSession hready
  | ask call =>
    cases call with
    | refresh => exact absurd rfl hstays
    | disable => rfl
    | setPayloads payloads => rfl
    | startOperation request => exact absurd rfl (hother request)
    | expire id => exact habandoned id .timedOut
    | cancel id => exact habandoned id .cancelled
    | handleResponse instanceId message =>
      show (h.ask setup (.handleResponse instanceId message)).run.device.nextSession = _
      rcases h.run_ask_response setup instanceId message with hsame | ⟨request, hsettle⟩
      · rw [hsame]
      · have hsettled := DeviceRun.settled_settle setup (DeviceRun.orderly_freed ho instanceId)
          (DeviceRun.staged_freed hstaged instanceId) instanceId request message
        rw [hsettle]
        exact hsettled.nextSession hready

end DeviceHistory

/-! ## In step -/

/-- Whether ids are not 0, and as far behind the next id as the numbers of the sessions are behind the
    next number. -/
structure Device.Numbered (d : Device) : Prop where
  next : d.nextOperationId ≠ 0
  operations : ∀ id o, d.operation? id = some o → o.operationId ≠ 0 ∧
    (o.operationId.toNat + d.nextSession) % 65535 = (d.nextOperationId.toNat + id.value) % 65535

namespace DeviceLog

variable {config : Config} {others : DeviceRun → Host → Prop} {host : Host} {l : DeviceLog}
  {id : SessionId} {o' : Operation}

/-- As long as there is an operation, only the start of another one gives a number to a session. -/
theorem Reachable.nextSession_taken (hreachable : Reachable config others host l) (codec : Codec)
    {stride : Stride} (hother : ∀ request, stride ≠ .ask (.startOperation request))
    (ho' : (l.take { config, codec } stride).run.device.operation? id = some o') :
    ∃ o, l.run.device.operation? id = some o ∧ o'.subject = o.subject ∧
      (l.take { config, codec } stride).run.device.nextSession = l.run.device.nextSession := by
  obtain ⟨o, ho, hsubject⟩ := DeviceHistory.continues_stride { config, codec }
    hreachable.balanced.orderly hreachable.staged hother id o' ho'
  refine ⟨o, ho, hsubject, ?_⟩
  exact DeviceHistory.nextSession_stride _ hreachable.balanced.orderly hreachable.staged
    (hreachable.staged.ready_of_operation ho) (DeviceHistory.ne_refresh ho') hother

/-- The start of an operation gives out an id and a number, or neither. -/
theorem numbered_start (hn : l.run.device.Numbered) (setup : Setup) (request : OperationRequest) :
    (l.run.startOperation setup request).2.device.Numbered := by
  have hbegun := l.run.begun_startOperation setup request
  generalize l.run.startOperation setup request = result at hbegun
  cases hbegun with
  | refused => exact hn
  | started _ hstarted =>
    have hsession := hstarted.nextSession
    have hnext : result.2.device.nextOperationId =
        Device.operationIdAfter l.run.device.nextOperationId := hstarted.nextOperationId
    have hafter := Device.operationIdAfter_mod l.run.device.nextOperationId
    change result.2.device.nextSession = l.run.device.nextSession + 1 at hsession
    constructor
    case next =>
      rw [hnext]
      exact Device.operationIdAfter_ne_zero _
    case operations =>
      intro id o' ho'
      rw [hsession, hnext]
      rcases hstarted.opened ho' with hold | ⟨rfl, resource, -, hsubject⟩
      · obtain ⟨hne, hstep⟩ := hn.operations id o' hold
        exact ⟨hne, by omega⟩
      · have hid : o'.operationId = l.run.device.nextOperationId :=
          congrArg OperationSubject.operationId hsubject
        have hnumber : l.run.counted.newId.value = l.run.device.nextSession := rfl
        rw [hid]
        exact ⟨hn.next, by omega⟩

/-- Ids and numbers are in step. -/
theorem Reachable.numbered (hreachable : Reachable config others host l) :
    l.run.device.Numbered := by
  refine hreachable.invariant (P := fun l => l.run.device.Numbered) ?_ ?_ fun _ _ _ hn => hn
  · exact fun _ _ _ _ _ _ => ⟨(by decide : (1 : UInt16) ≠ 0), fun id o ho => by cases ho⟩
  · intro l codec stride hl hn
    by_cases hstart : ∃ request, stride = .ask (.startOperation request)
    · obtain ⟨request, rfl⟩ := hstart
      show (l.start (l.run.startOperation { config, codec } request)).run.device.Numbered
      rw [DeviceHistory.run_start]
      exact numbered_start hn { config, codec } request
    · have hother : ∀ request, stride ≠ .ask (.startOperation request) :=
        fun request heq => hstart ⟨request, heq⟩
      have hkept : (l.take { config, codec } stride).run.device.nextOperationId =
          l.run.device.nextOperationId := l.nextOperationId_stride { config, codec } hother
      constructor
      case next => exact hkept ▸ hn.next
      case operations =>
        intro id o' ho'
        obtain ⟨o, ho, hsubject, hsession⟩ := hl.nextSession_taken codec hother ho'
        have hid : o'.operationId = o.operationId := congrArg OperationSubject.operationId hsubject
        obtain ⟨hne, hstep⟩ := hn.operations id o ho
        refine ⟨hid ▸ hne, ?_⟩
        rw [hid, hsession]
        exact hstep.trans (by rw [hkept])

/-- As long as there is an operation, only starts of others give numbers to sessions. -/
theorem Reachable.nextSession_takeAll (hreachable : Reachable config others host l) (codec : Codec)
    (strides : List Stride)
    (hother : ∀ stride ∈ strides, ∀ request, stride ≠ .ask (.startOperation request))
    (ho' : (l.takeAll { config, codec } strides).run.device.operation? id = some o') :
    (∃ o, l.run.device.operation? id = some o) ∧
      (l.takeAll { config, codec } strides).run.device.nextSession = l.run.device.nextSession := by
  induction strides generalizing l with
  | nil => exact ⟨⟨o', ho'⟩, rfl⟩
  | cons stride rest ih =>
    obtain ⟨⟨o₁, ho₁⟩, hrest⟩ := ih (hreachable.steps (.single (.taken l codec stride)))
      (fun other hmem => hother other (List.mem_cons_of_mem _ hmem)) ho'
    obtain ⟨o, ho, -, hfirst⟩ :=
      hreachable.nextSession_taken codec (hother stride List.mem_cons_self) ho₁
    exact ⟨⟨o, ho⟩, hrest.trans hfirst⟩

end DeviceLog

/-! ## Histories -/

namespace DeviceHistory

variable {config : Config} {others : DeviceRun → Host → Prop} {host : Host} {n : Nat}
  {h h' : DeviceHistory} {id : SessionId} {o' : Operation}

theorem Reachable.numbered (hreachable : Reachable config others host h) :
    h.run.device.Numbered := by
  obtain ⟨l, hl, rfl⟩ := DeviceLog.logged_of_reachable hreachable
  exact hl.numbered

/-- As long as there is an operation, a call that starts no other gives no number to a session. -/
theorem Reachable.nextSession_perform (hreachable : Reachable config others host h) (codec : Codec)
    {call : DeviceCall} (hother : ∀ request, call ≠ .startOperation request)
    (ho' : (h.perform { config, codec } call).run.device.operation? id = some o') :
    (∃ o, h.run.device.operation? id = some o) ∧
      (h.perform { config, codec } call).run.device.nextSession = h.run.device.nextSession := by
  obtain ⟨l, hl, rfl⟩ := DeviceLog.logged_of_reachable hreachable
  obtain ⟨n, hwalk⟩ := l.toDeviceHistory.perform_strides { config, codec } call
  rw [hwalk, ← DeviceLog.toDeviceHistory_takeAll] at ho' ⊢
  refine hl.nextSession_takeAll codec _ (fun stride hmem request => ?_) ho'
  rcases List.mem_cons.mp hmem with rfl | hround
  · exact fun heq => hother request (Stride.ask.inj heq)
  · rw [List.eq_of_mem_replicate hround]
    exact fun heq => by cases heq

/-- The start of an operation gives a number to one session at the most, and is not the beginning of
    one whose number was given out before. -/
theorem nextSession_start (setup : Setup) (request : OperationRequest)
    (hid : id.value < h.run.device.nextSession)
    (ho' : (h.perform setup (.startOperation request)).run.device.operation? id = some o') :
    h.run.device.operation? id = some o' ∧
      (h.perform setup (.startOperation request)).run.device.nextSession ≤
        h.run.device.nextSession + 1 := by
  have hbegun := h.run.begun_startOperation setup request
  change (h.start (h.run.startOperation setup request)).run.device.operation? id = some o' at ho'
  show _ ∧ (h.start (h.run.startOperation setup request)).run.device.nextSession ≤ _
  rw [run_start] at ho' ⊢
  generalize h.run.startOperation setup request = result at hbegun ho'
  cases hbegun with
  | refused => exact ⟨ho', Nat.le_succ _⟩
  | started _ hstarted =>
    refine ⟨(hstarted.opened ho').resolve_right fun hnew => ?_, Nat.le_of_eq hstarted.nextSession⟩
    obtain ⟨rfl, -⟩ := hnew
    exact Nat.lt_irrefl _ hid

/-- Any number of steps, in which so many times an operation was to start. -/
inductive Attempted (config : Config) (others : DeviceRun → Host → Prop) :
    Nat → DeviceHistory → DeviceHistory → Prop
  | none (h : DeviceHistory) : Attempted config others 0 h h
  | start {n : Nat} {h h' : DeviceHistory} (before : Attempted config others n h h') (codec : Codec)
      (request : OperationRequest) :
      Attempted config others (n + 1) h (h'.perform { config, codec } (.startOperation request))
  | call {n : Nat} {h h' : DeviceHistory} (before : Attempted config others n h h') (codec : Codec)
      {call : DeviceCall} (other : ∀ request, call ≠ .startOperation request) :
      Attempted config others n h (h'.perform { config, codec } call)
  | elsewhere {n : Nat} {h h' : DeviceHistory} (before : Attempted config others n h h') {host : Host}
      (allowed : others h'.run host) :
      Attempted config others n h { h' with run.host := host }

namespace Attempted

theorem steps (ha : Attempted config others n h h') : Steps config others h h' := by
  induction ha with
  | none => exact .refl
  | start _ codec request ih => exact ih.tail (.call _ codec (.startOperation request))
  | call _ codec _ ih => exact ih.tail (.call _ codec _)
  | elsewhere _ hallowed ih => exact ih.tail (.elsewhere _ hallowed)

/-- Numbers of sessions are not taken back. -/
theorem nextSession_ge (ha : Attempted config others n h h') (ho : h.run.device.Orderly) :
    h.run.device.nextSession ≤ h'.run.device.nextSession := by
  suffices hsince : h.run.Since h'.run from hsince.next
  refine Steps.keeps (P := fun h' => h.run.Since h'.run) ha.steps
    (fun _ _ hevent hsince => hsince.trans (hevent.since hsince.orderly))
    (fun _ _ _ hsince => hsince.trans (DeviceRun.SameSessions.faithful {} hsince.orderly).toSince)
    (DeviceRun.SameSessions.faithful {} ho).toSince

/-- As long as an operation is there, no more numbers are given to sessions than operations were to
    start. -/
theorem nextSession_le (ha : Attempted config others n h h')
    (hreachable : Reachable config others host h) (hid : id.value < h.run.device.nextSession)
    (ho' : h'.run.device.operation? id = some o') :
    h'.run.device.nextSession ≤ h.run.device.nextSession + n := by
  induction ha generalizing o' with
  | none => exact Nat.le_refl _
  | start hbefore codec request ih =>
    have hgrown := hbefore.nextSession_ge hreachable.balanced.orderly
    obtain ⟨ho, hnext⟩ := nextSession_start _ request (Nat.lt_of_lt_of_le hid hgrown) ho'
    have hle := ih hreachable hid ho
    omega
  | call hbefore codec hother ih =>
    obtain ⟨⟨o, ho⟩, hnext⟩ :=
      (hreachable.steps hbefore.steps).nextSession_perform codec hother ho'
    exact hnext ▸ ih hreachable hid ho
  | elsewhere _ _ ih => exact ih hreachable hid ho'

end Attempted

/-- In every history of a device: no operation has the id 0, and two operations have the same id if
    and only if the numbers of their sessions agree modulo 65535.  So when two have the same id, at
    least 65535 times another operation was to start since the first of them has begun. -/
theorem operation_ids_in_step (hreachable : Reachable config others host h) :
    (∀ id o, h.run.device.operation? id = some o → o.operationId ≠ 0) ∧
    (∀ id o id' o', h.run.device.operation? id = some o → h.run.device.operation? id' = some o' →
      (o.operationId = o'.operationId ↔ id.value % 65535 = id'.value % 65535)) ∧
    (∀ n begun id o id' o', Reachable config others host begun → Attempted config others n begun h →
      begun.run.device.nextSession = id.value + 1 → h.run.device.operation? id = some o →
      h.run.device.operation? id' = some o' → id.value < id'.value →
      o.operationId = o'.operationId → 65535 ≤ n) := by
  have hnumbered := hreachable.numbered
  have hiff : ∀ id o id' o', h.run.device.operation? id = some o →
      h.run.device.operation? id' = some o' →
      (o.operationId = o'.operationId ↔ id.value % 65535 = id'.value % 65535) := by
    intro id o id' o' ho ho'
    obtain ⟨hne, hstep⟩ := hnumbered.operations id o ho
    obtain ⟨hne', hstep'⟩ := hnumbered.operations id' o' ho'
    rw [Device.operationId_eq_iff hne hne']
    omega
  refine ⟨fun id o ho => (hnumbered.operations id o ho).1, hiff, ?_⟩
  intro n begun id o id' o' hbegun hattempted hnext ho ho' hlt heq
  have hmod := (hiff id o id' o' ho ho').mp heq
  have hgiven := hattempted.nextSession_le hbegun (by omega) ho
  obtain ⟨s, hs, -⟩ := Device.operation?_eq_some.mp ho'
  have hnumber := hreachable.balanced.orderly.numbers id' s hs
  omega

/-- Two operations that begin one right after the other have different ids. -/
theorem operation_ids_in_step_sample :
    ∃ o o', (sampleRun sampleSetup (sampleCalls.take 5)).run.device.operation? ⟨2⟩ = some o ∧
      (sampleRun sampleSetup (sampleCalls.take 5)).run.device.operation? ⟨3⟩ = some o' ∧
      o.operationId ≠ 0 ∧ o.operationId ≠ o'.operationId := by
  have hthere : ∀ id ∈ [(⟨2⟩ : SessionId), ⟨3⟩],
      ((sampleRun sampleSetup (sampleCalls.take 5)).run.device.operation? id).isSome = true := by
    decide +kernel
  obtain ⟨o, ho⟩ := Option.isSome_iff_exists.mp (hthere ⟨2⟩ (by decide))
  obtain ⟨o', ho'⟩ := Option.isSome_iff_exists.mp (hthere ⟨3⟩ (by decide))
  have hreached := reachable_sampleRun DeviceRun.LeftAlone sampleSetup
  have hbegun : (sampleRun sampleSetup (sampleCalls.take 4)).run.device.nextSession = 3 := by
    decide +kernel
  have hattempted : Attempted sampleSetup.config DeviceRun.LeftAlone 1
      (sampleRun sampleSetup (sampleCalls.take 4)) (sampleRun sampleSetup (sampleCalls.take 5)) :=
    .start (.none _) sampleSetup.codec sampleRequest
  obtain ⟨hne, -, hfar⟩ := operation_ids_in_step (hreached (sampleCalls.take 5))
  refine ⟨o, o', ho, ho', hne _ o ho, fun heq => ?_⟩
  have hmany := hfar 1 _ _ o _ o' (hreached (sampleCalls.take 4)) hattempted hbegun ho ho'
    (by decide) heq
  exact absurd hmany (by decide)

end DeviceHistory

/-! ## An id that is given out again -/

namespace Device

/-- Behind `n` ids. -/
theorem toNat_iterate_operationIdAfter {id : UInt16} (hid : id ≠ 0) (n : Nat) :
    (operationIdAfter^[n] id).toNat = (id.toNat - 1 + n) % 65535 + 1 := by
  induction n with
  | zero =>
    have hlt := id.toNat_lt
    have hpos : id.toNat ≠ 0 := fun hzero => hid (UInt16.toNat_inj.mp hzero)
    show id.toNat = _
    omega
  | succ n ih =>
    rw [Function.iterate_succ_apply', toNat_operationIdAfter, ih]
    split <;> omega

end Device

namespace DeviceRun

variable {r : DeviceRun} {setup : Setup} {request : OperationRequest} {e : ModelError}

/-- The run in which `n` more operations have got an id and a number, and have not begun. -/
def skipped (r : DeviceRun) (n : Nat) : DeviceRun :=
  { r with device := { r.device with
      nextSession := r.device.nextSession + n
      nextOperationId := Device.operationIdAfter^[n] r.device.nextOperationId } }

/-- An operation whose resource is unknown gets an id and a number, and does not begin. -/
theorem startOperation_unknown (hready : r.device.state = .ready)
    (hsupported : r.device.supportedOperations.contains request.operation = true)
    (hunknown : r.device.registry.getByUri request.uri = .error e) (setup : Setup) :
    r.startOperation setup request = (.error (.model e), r.skipped 1) := by
  have hstart : (Session.operation request r.device.nextOperationId).start
      (r.counted.device.scope setup) r.counted.device.memory =
        (.error (.model e), .operation request r.device.nextOperationId, r.device.memory) := by
    have hunknown' : (r.counted.device.scope setup).registry.getByUri request.uri = .error e :=
      hunknown
    unfold Session.operation Session.start SessionTask.start Operation.start
    dsimp only
    rw [if_neg (fun hne => hne rfl), hunknown']
    rfl
  unfold startOperation
  rw [if_neg (by rw [hready]; decide), if_neg (by rw [hsupported]; decide)]
  show r.counted.startSession setup _ = _
  rw [startSession_eq, hstart]
  rfl

end DeviceRun

namespace DeviceHistory

variable {h : DeviceHistory} {request : OperationRequest} {e : ModelError}

theorem performAll_unknown (hready : h.run.device.state = .ready)
    (hsupported : h.run.device.supportedOperations.contains request.operation = true)
    (hunknown : h.run.device.registry.getByUri request.uri = .error e) (setup : Setup) (n : Nat) :
    h.performAll setup (List.replicate n (.startOperation request)) =
      { h with run := h.run.skipped n } := by
  induction n generalizing h with
  | zero => rfl
  | succ n ih =>
    have hfirst : h.perform setup (.startOperation request) = { h with run := h.run.skipped 1 } := by
      show h.start (h.run.startOperation setup request) = _
      rw [DeviceRun.startOperation_unknown hready hsupported hunknown]
      rfl
    have hrest := ih (h := { h with run := h.run.skipped 1 }) hready hsupported hunknown
    show (h.perform setup (.startOperation request)).performAll setup _ = _
    rw [hfirst, hrest]
    unfold DeviceRun.skipped
    dsimp only
    rw [Nat.add_assoc, Nat.add_comm 1 n]
    rfl

/-- A request for a resource that the sample does not have. -/
def unknownRequest : OperationRequest := { sampleRequest with uri := "/redfish/v1/Nowhere" }

/-- The sample with one operation, which runs. -/
def runningHistory : DeviceHistory := sampleRun sampleSetup (sampleCalls.take 4)

/-- When 65534 operations could not begin, the next id is that of the operation that runs. -/
theorem performAll_running :
    runningHistory.performAll sampleSetup
        (List.replicate 65534 (.startOperation unknownRequest)) =
      { runningHistory with
        run := { runningHistory.run with
          device.nextSession := 65537
          device.nextOperationId := 1 } } := by
  have hready : runningHistory.run.device.state = .ready := by decide +kernel
  have hsupported : runningHistory.run.device.supportedOperations.contains .head = true := by
    decide +kernel
  have hunknown : runningHistory.run.device.registry.getByUri unknownRequest.uri =
      .error (.resourceNotFound "/redfish/v1/Nowhere") := by decide +kernel
  have hsession : runningHistory.run.device.nextSession = 3 := by decide +kernel
  have hnext : runningHistory.run.device.nextOperationId = 2 := by decide +kernel
  have hround : Device.operationIdAfter^[65534] 2 = 1 :=
    UInt16.toNat_inj.mp (Device.toNat_iterate_operationIdAfter (by decide) 65534)
  rw [performAll_unknown hready hsupported hunknown]
  unfold DeviceRun.skipped
  rw [hsession, hnext, hround]

/-- An operation that runs, 65534 that cannot begin, and one more that runs. -/
def repeatingHistory : DeviceHistory :=
  (runningHistory.performAll sampleSetup
    (List.replicate 65534 (.startOperation unknownRequest))).perform sampleSetup
      (.startOperation sampleRequest)

/-- Two live operations of a device have the same id, since the first one has got no response until
    all ids were given out. -/
theorem operation_id_repeated :
    Reachable sampleSetup.config DeviceRun.LeftAlone {} repeatingHistory ∧
    ∃ o o', repeatingHistory.run.device.isLive ⟨2⟩ = true ∧
      repeatingHistory.run.device.isLive ⟨65537⟩ = true ∧
      repeatingHistory.run.device.operation? ⟨2⟩ = some o ∧
      repeatingHistory.run.device.operation? ⟨65537⟩ = some o' ∧
      o.operationId = o'.operationId := by
  have hids : ∀ id ∈ [(⟨2⟩ : SessionId), ⟨65537⟩], repeatingHistory.run.device.isLive id = true ∧
      (repeatingHistory.run.device.operation? id).map (·.operationId) = some 1 := by
    unfold repeatingHistory
    rw [performAll_running]
    decide +kernel
  obtain ⟨hlive, hid⟩ := hids ⟨2⟩ (by decide)
  obtain ⟨hlive', hid'⟩ := hids ⟨65537⟩ (by decide)
  obtain ⟨o, ho, hone⟩ := Option.map_eq_some_iff.mp hid
  obtain ⟨o', ho', hone'⟩ := Option.map_eq_some_iff.mp hid'
  refine ⟨?_, o, o', hlive, hlive', ho, ho', hone.trans hone'.symm⟩
  have hreached := reachable_sampleRun DeviceRun.LeftAlone sampleSetup (sampleCalls.take 4)
  exact hreached.steps ((steps_performAll _ _ sampleSetup _).tail
    (.call _ sampleSetup.codec (.startOperation sampleRequest)))

end DeviceHistory

end DeviceEnablement
