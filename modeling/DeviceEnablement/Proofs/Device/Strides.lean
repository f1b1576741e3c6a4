/-
  What a device does, stride by stride, and what goes over the wire meanwhile.

  Most calls are one stride.  A call that takes a response is several: the answer is taken first, and
  then each round of the pump is a stride of its own.  In a stride at most one request is sent.

  1. `perform_strides`: each call is one stride and then rounds of the pump.
  2. `events_stride`: each stride is a sequence of events, so what events keep strides keep.
  3. `DeviceLog`: a history together with the sessions whose requests were taken and the answers that
     came for outstanding requests.  It is written stride by stride and has no influence on anything.
  4. `Reachable.invariant`: what each stride keeps holds of every log, and `logged_of_reachable` says
     that every history has one.
-/
import DeviceEnablement.Proofs.Device.Completions
import DeviceEnablement.Proofs.Device.Outstanding

namespace DeviceEnablement

/-! ## Strides -/

/-- One round of the pump, if there is one to be made. -/
def DeviceRun.round (r : DeviceRun) (setup : Setup) : DeviceRun :=
  match r.device.waiting with
  | [] => r
  | (id, out) :: rest =>
    if r.device.hasCapacity then
      ({ r with device.waiting := rest } : DeviceRun).sendWaiting setup id out
    else r

/-- What a device does at a stretch: what it is asked, without the pump, or a round of the pump. -/
inductive Stride
  | ask (call : DeviceCall)
  | round

namespace DeviceHistory

/-- Asks one thing of the device, without the pump. -/
def ask (h : DeviceHistory) (setup : Setup) : DeviceCall → DeviceHistory
  | .handleResponse instanceId message =>
    match h.run.device.pending.get? instanceId with
    | none => h
    | some request =>
      { run := (h.run.freed instanceId).settle setup instanceId request message
        ledger := { h.ledger with answered := h.ledger.answered + 1 } }
  | call => h.perform setup call

/-- Makes one stride. -/
def stride (h : DeviceHistory) (setup : Setup) : Stride → DeviceHistory
  | .ask call => h.ask setup call
  | .round => { h with run := h.run.round setup }

/-- Makes one stride after the other. -/
def walk (h : DeviceHistory) (setup : Setup) (strides : List Stride) : DeviceHistory :=
  strides.foldl (fun h stride => h.stride setup stride) h

/-- The pump is a number of rounds. -/
theorem walk_rounds (setup : Setup) (ledger : Ledger) (r : DeviceRun) :
    ∃ n, walk ⟨r, ledger⟩ setup (List.replicate n .round) = ⟨r.pump setup, ledger⟩ := by
  induction r using DeviceRun.pump.induct setup with
  | case1 r hcapacity hw =>
    refine ⟨0, ?_⟩
    rw [DeviceRun.pump_of_empty hw]
    rfl
  | case2 r hcapacity id out rest hw ih =>
    obtain ⟨n, hrounds⟩ := ih
    have hround : r.round setup =
        ({ r with device.waiting := rest } : DeviceRun).sendWaiting setup id out := by
      unfold DeviceRun.round
      rw [hw]
      exact if_pos hcapacity
    refine ⟨n + 1, ?_⟩
    rw [DeviceRun.pump_of_cons hcapacity hw, ← hrounds, ← hround]
    rfl
  | case3 r hfull =>
    refine ⟨0, ?_⟩
    rw [DeviceRun.pump_of_full hfull]
    rfl

theorem ask_of_unknown {h : DeviceHistory} {instanceId : UInt8}
    (hunknown : h.run.device.pending.get? instanceId = none) (setup : Setup)
    (message : Option Bytes) : h.ask setup (.handleResponse instanceId message) = h := by
  simp only [ask, hunknown]

theorem ask_of_pending {h : DeviceHistory} {instanceId : UInt8} {request : PendingRequest}
    (hpending : h.run.device.pending.get? instanceId = some request) (setup : Setup)
    (message : Option Bytes) :
    h.ask setup (.handleResponse instanceId message) =
      { run := (h.run.freed instanceId).settle setup instanceId request message
        ledger := { h.ledger with answered := h.ledger.answered + 1 } } := by
  simp only [ask, hpending]

/-- A stride with a response does nothing, or settles the request that it answers. -/
theorem run_ask_response (h : DeviceHistory) (setup : Setup) (instanceId : UInt8)
    (message : Option Bytes) :
    (h.ask setup (.handleResponse instanceId message)).run = h.run ∨
    ∃ request, (h.ask setup (.handleResponse instanceId message)).run =
      (h.run.freed instanceId).settle setup instanceId request message := by
  cases hpending : h.run.device.pending.get? instanceId with
  | none =>
    rw [ask_of_unknown hpending]
    exact Or.inl rfl
  | some request =>
    rw [ask_of_pending hpending]
    exact Or.inr ⟨request, rfl⟩

/-- Each call is one stride and then rounds of the pump. -/
theorem perform_strides (h : DeviceHistory) (setup : Setup) (call : DeviceCall) :
    ∃ n, h.perform setup call = h.walk setup (.ask call :: List.replicate n .round) := by
  cases call with
  | handleResponse instanceId message =>
    cases hpending : h.run.device.pending.get? instanceId with
    | none =>
      refine ⟨0, Eq.trans ?_ (ask_of_unknown hpending setup message).symm⟩
      simp only [perform, Table.contains, hpending,
        DeviceRun.handleResponse_of_unknown hpending message]
      rfl
    | some request =>
      obtain ⟨n, hrounds⟩ := walk_rounds setup
        { h.ledger with answered := h.ledger.answered + 1 }
        ((h.run.freed instanceId).settle setup instanceId request message)
      rw [← ask_of_pending hpending, ← DeviceRun.handleResponse_of_pending hpending] at hrounds
      refine ⟨n, Eq.trans ?_ hrounds.symm⟩
      simp only [perform, Table.contains, hpending]
      rfl
  | _ => exact ⟨0, rfl⟩

/-! ## Events -/

theorem events_round (h : DeviceHistory) (setup : Setup) :
    Events h { h with run := h.run.round setup } := by
  unfold DeviceRun.round
  split
  · exact .refl
  · rename_i id out rest hw
    split
    · rename_i hcapacity
      exact events_moves h.ledger (DeviceRun.moves_sendWaiting hcapacity hw)
    · exact .refl

theorem events_ask (h : DeviceHistory) (setup : Setup) (call : DeviceCall) :
    Events h (h.ask setup call) := by
  cases call with
  | handleResponse instanceId message =>
    cases hpending : h.run.device.pending.get? instanceId with
    | none =>
      rw [ask_of_unknown hpending]
    | some request =>
      obtain ⟨r, hanswered, hmoves⟩ :=
        DeviceRun.answered_settle (h.run.freed instanceId) setup instanceId request message
      rw [ask_of_pending hpending]
      exact .head (.answered h hpending hanswered) (events_moves _ hmoves)
  | refresh => exact events_perform h setup .refresh
  | disable => exact events_perform h setup .disable
  | setPayloads payloads => exact events_perform h setup (.setPayloads payloads)
  | startOperation request => exact events_perform h setup (.startOperation request)
  | expire id => exact events_perform h setup (.expire id)
  | cancel id => exact events_perform h setup (.cancel id)

/-- Each stride is a sequence of events. -/
theorem events_stride (h : DeviceHistory) (setup : Setup) (stride : Stride) :
    Events h (h.stride setup stride) := by
  cases stride with
  | ask call => exact events_ask h setup call
  | round => exact events_round h setup

/-- Sessions stay in order, and keep their kind, whatever happens. -/
theorem Event.since {h h' : DeviceHistory} (ho : h.run.device.Orderly) (hevent : Event h h') :
    h.run.Since h'.run := by
  cases hevent with
  | learned hresembles => exact (hresembles.sameSessions.faithful ho).toSince
  | cancelled state => exact (DeviceRun.faithful_cancelAll ho state).toSince
  | negotiation hstarted => exact DeviceRun.since_started ho hstarted
  | @operation _ _ _ result hstarted =>
    have hsince := DeviceRun.since_started ho hstarted
    obtain ⟨_ | _, r⟩ := result
    · exact hsince
    · exact hsince
  | givenUp id ha => exact DeviceRun.since_abandon ho id ha
  | answered _ hanswered => exact (DeviceRun.faithful_answered ho hanswered).toSince
  | moved hmove => exact (DeviceRun.faithful_move ho hmove).toSince

theorem Events.since {h h' : DeviceHistory} (ho : h.run.device.Orderly) (hevents : Events h h') :
    h.run.Since h'.run := by
  induction hevents with
  | refl => exact (DeviceRun.SameSessions.faithful {} ho).toSince
  | tail _ hevent ih => exact ih.trans (hevent.since ih.orderly)

end DeviceHistory

/-! ## Logs -/

/-- An answer to an outstanding request. -/
structure Answer where
  request : PendingRequest
  /-- The body of the response, or the failure that there is none. -/
  body : Except Failure Bytes

/-- A history, and what went over the wire meanwhile. -/
structure DeviceLog extends DeviceHistory where
  /-- The sessions whose requests were taken by the transport, the latest in front. -/
  senders : List SessionId := []
  /-- The answers to outstanding requests, the latest in front. -/
  answers : List Answer := []

/-- The session whose request was taken between `r` and `r'`, if there is one. -/
def DeviceRun.sender? (r r' : DeviceRun) : Option SessionId :=
  if r'.host.transport.sent.length = r.host.transport.sent.length then none
  else r'.host.transport.sent.head?.bind fun request =>
    (r'.device.pending.get? request.instanceId).map (·.session)

/-- The answer that a device takes with a stride, if it waits for it. -/
def DeviceRun.answer? (r : DeviceRun) : Stride → Option Answer
  | .ask (.handleResponse instanceId message) =>
    (r.device.pending.get? instanceId).map fun request =>
      { request, body := DeviceRun.bodyOf r.device.eid instanceId request.command message }
  | _ => none

namespace DeviceLog

/-- Makes one stride, and writes down what went over the wire. -/
def take (l : DeviceLog) (setup : Setup) (stride : Stride) : DeviceLog where
  toDeviceHistory := l.stride setup stride
  senders := (l.run.sender? (l.stride setup stride).run).toList ++ l.senders
  answers := (l.run.answer? stride).toList ++ l.answers

/-- One step of a log: a stride, or a change of the host by others. -/
inductive Step (config : Config) (others : DeviceRun → Host → Prop) : DeviceLog → DeviceLog → Prop
  | taken (l : DeviceLog) (codec : Codec) (stride : Stride) :
      Step config others l (l.take { config, codec } stride)
  | elsewhere (l : DeviceLog) {host : Host} (allowed : others l.run host) :
      Step config others l { l with run.host := host }

/-- Any number of steps. -/
abbrev Steps (config : Config) (others : DeviceRun → Host → Prop) : DeviceLog → DeviceLog → Prop :=
  Relation.ReflTransGen (Step config others)

/-- The log of a device that was just found at an endpoint. -/
def found (setup : Setup) (eid tid : UInt8) (uuid : Uuid) (payloads : List Bytes) (folder : Folder)
    (host : Host) : DeviceLog :=
  { toDeviceHistory := .found setup eid tid uuid payloads folder host }

/-- Whether a log is that of a device that was found at an endpoint of `host`. -/
def Reachable (config : Config) (others : DeviceRun → Host → Prop) (host : Host) (l : DeviceLog) :
    Prop :=
  ∃ codec eid tid uuid payloads folder,
    Steps config others (found { config, codec } eid tid uuid payloads folder host) l

variable {config : Config} {others : DeviceRun → Host → Prop} {host : Host} {l l' : DeviceLog}

theorem Reachable.steps (hreachable : Reachable config others host l)
    (hsteps : Steps config others l l') : Reachable config others host l' := by
  obtain ⟨codec, eid, tid, uuid, payloads, folder, hbefore⟩ := hreachable
  exact ⟨codec, eid, tid, uuid, payloads, folder, hbefore.trans hsteps⟩

/-- What holds of a device that was just found, and is kept by every stride and every change of the
    host by others, holds of every log. -/
theorem Reachable.invariant {P : DeviceLog → Prop} (hreachable : Reachable config others host l)
    (hfound : ∀ setup eid tid uuid payloads folder,
      P (found setup eid tid uuid payloads folder host))
    (htaken : ∀ l codec stride, Reachable config others host l → P l →
      P (l.take { config, codec } stride))
    (helsewhere : ∀ l host', others l.run host' → P l → P { l with run.host := host' }) : P l := by
  obtain ⟨codec, eid, tid, uuid, payloads, folder, hsteps⟩ := hreachable
  induction hsteps with
  | refl => exact hfound _ eid tid uuid payloads folder
  | tail hbefore hstep ih =>
    cases hstep with
    | taken codec' stride =>
      exact htaken _ codec' stride ⟨codec, eid, tid, uuid, payloads, folder, hbefore⟩ ih
    | elsewhere hallowed => exact helsewhere _ _ hallowed ih

/-- What every event keeps, and every change of the host by others, holds of the history in every
    log. -/
theorem Reachable.of_events {P : DeviceHistory → Prop} (hreachable : Reachable config others host l)
    (hfound : ∀ setup eid tid uuid payloads folder,
      P (.found setup eid tid uuid payloads folder host))
    (hevent : ∀ h h', DeviceHistory.Event h h' → P h → P h')
    (helsewhere : ∀ h host', others h.run host' → P h → P { h with run.host := host' }) :
    P l.toDeviceHistory :=
  hreachable.invariant (P := fun l => P l.toDeviceHistory) hfound
    (fun l _ stride _ hp =>
      DeviceHistory.Events.keeps (l.toDeviceHistory.events_stride _ stride) hevent hp)
    (fun l host' hallowed hp => helsewhere l.toDeviceHistory host' hallowed hp)

/-- Sessions stay in order, and keep their kind, in any number of steps. -/
theorem Steps.since (ho : l.run.device.Orderly) (hsteps : Steps config others l l') :
    l.run.Since l'.run := by
  induction hsteps with
  | refl => exact (DeviceRun.SameSessions.faithful {} ho).toSince
  | @tail l₁ l₂ _ hstep ih =>
    cases hstep with
    | taken codec stride =>
      exact ih.trans ((l₁.toDeviceHistory.events_stride { config, codec } stride).since ih.orderly)
    | elsewhere => exact ih.trans (DeviceRun.SameSessions.faithful {} ih.orderly).toSince

theorem Reachable.balanced (hreachable : Reachable config others host l) : l.Balanced :=
  hreachable.of_events
    (fun setup eid tid uuid payloads folder =>
      DeviceHistory.balanced_found setup eid tid uuid payloads folder host)
    (fun _ _ hevent hb => hb.event hevent)
    (fun _ _ _ hb => ⟨hb.orderly, hb.startedNumbers, hb.givenUpNumbers, hb.distinct,
      hb.operations, hb.tally⟩)

theorem Reachable.sound (hreachable : Reachable config DeviceRun.Respected host l) :
    l.run.Sound none :=
  hreachable.of_events (P := fun h => h.run.Sound none)
    (fun setup eid tid uuid payloads folder =>
      ⟨Device.coherent_new setup eid tid uuid payloads folder,
        fun _ hk => absurd hk List.not_mem_nil⟩)
    (fun _ _ hevent hs => DeviceHistory.sound_event hs hevent)
    (fun _ _ hrespected hs => ⟨hs.coherent, hrespected⟩)

/-! ## Histories and logs -/

/-- Makes one stride after the other, and writes down what goes over the wire. -/
def takeAll (l : DeviceLog) (setup : Setup) (strides : List Stride) : DeviceLog :=
  strides.foldl (fun l stride => l.take setup stride) l

theorem steps_takeAll (others : DeviceRun → Host → Prop) (l : DeviceLog) (setup : Setup)
    (strides : List Stride) : Steps setup.config others l (l.takeAll setup strides) := by
  induction strides generalizing l with
  | nil => exact .refl
  | cons stride rest ih => exact .head (.taken l setup.codec stride) (ih _)

theorem toDeviceHistory_takeAll (l : DeviceLog) (setup : Setup) (strides : List Stride) :
    (l.takeAll setup strides).toDeviceHistory = l.toDeviceHistory.walk setup strides := by
  induction strides generalizing l with
  | nil => rfl
  | cons stride rest ih => exact ih (l.take setup stride)

/-- Every history has a log. -/
theorem logged_of_reachable {h : DeviceHistory}
    (hreachable : DeviceHistory.Reachable config others host h) :
    ∃ l, Reachable config others host l ∧ l.toDeviceHistory = h := by
  obtain ⟨codec, eid, tid, uuid, payloads, folder, hsteps⟩ := hreachable
  induction hsteps with
  | refl => exact ⟨_, ⟨codec, eid, tid, uuid, payloads, folder, .refl⟩, rfl⟩
  | @tail h h' _ hstep ih =>
    obtain ⟨l, hl, rfl⟩ := ih
    cases hstep with
    | call codec' call =>
      let setup : Setup := { config, codec := codec' }
      obtain ⟨n, hperform⟩ := l.toDeviceHistory.perform_strides setup call
      have hsteps := steps_takeAll others l setup (.ask call :: List.replicate n .round)
      exact ⟨_, hl.steps hsteps, (toDeviceHistory_takeAll ..).trans hperform.symm⟩
    | elsewhere hallowed =>
      exact ⟨_, hl.steps (.single (.elsewhere l hallowed)), rfl⟩

/-- The log of the sample. -/
def sampleLog : DeviceLog :=
  (found DeviceHistory.sampleSetup 8 1 ⟨0⟩ [DeviceHistory.sampleRecord] {} {}).takeAll
    DeviceHistory.sampleSetup (DeviceHistory.sampleCalls.flatMap fun call => [.ask call, .round])

theorem reachable_sampleLog (others : DeviceRun → Host → Prop) :
    Reachable DeviceHistory.sampleSetup.config others {} sampleLog :=
  ⟨DeviceHistory.sampleSetup.codec, 8, 1, ⟨0⟩, [DeviceHistory.sampleRecord], {},
    steps_takeAll others _ DeviceHistory.sampleSetup _⟩

end DeviceLog

end DeviceEnablement
