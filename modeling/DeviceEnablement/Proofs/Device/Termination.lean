/-
  The handling of a response ends.

  The pump makes sessions fail, a download that fails goes on to the next dictionary, and behind the last
  dictionary the pump is set going once more.  No queue alone shows that this ends: starting a download
  may put a request into the queue of the pump.

  1. `Handling.During`: the steps that are made while a call is under way.
  2. `During.load_lt`: what is called in the rounds of a loop begins with a smaller load.
  3. `steps_handleResponse`: `DeviceRun.handleResponse` is where its handling leads when the attempts turn
     out as they do at its host.  The pump within the pump makes no difference, since nothing is left
     for the outer one to do (`pump_pump`).
  4. `response_handling_ends` puts these together.
-/
import DeviceEnablement.Proofs.Device.Handling

namespace DeviceEnablement

namespace Handling

variable {setup : Setup} {h h' : Handling} {s : List Frame} {r r' : DeviceRun}

/-! ## Calls within calls -/

/-- `During setup s h h'`: at least one step leads from `h` to `h'`, and all the while those calls wait
    that wait in `s`. -/
def During (setup : Setup) (s : List Frame) : Handling → Handling → Prop :=
  Relation.TransGen fun h h' => Next setup h h' ∧ s <:+ h'.callers

/-- Whoever waits for a call waits for the calls that it makes. -/
theorem During.weaken {s' : List Frame} (hduring : During setup s h h') (hsuffix : s' <:+ s) :
    During setup s' h h' :=
  Relation.TransGen.mono (fun _ _ hstep => ⟨hstep.1, hsuffix.trans hstep.2⟩) _ _ hduring

/-- The first step, and those behind it, if there are any. -/
theorem During.exists_first (hduring : During setup s h h') :
    ∃ h₁, Next setup h h₁ ∧ s <:+ h₁.callers ∧ (h₁ = h' ∨ During setup s h₁ h') := by
  obtain ⟨h₁, ⟨hnext, hsuffix⟩, hrest⟩ := Relation.TransGen.head'_iff.mp hduring
  rcases Relation.reflTransGen_iff_eq_or_transGen.mp hrest with heq | hrest
  · exact ⟨h₁, hnext, hsuffix, Or.inl heq.symm⟩
  · exact ⟨h₁, hnext, hsuffix, Or.inr hrest⟩

/-- Once a call has returned, those that waited for it do not wait any longer. -/
theorem Next.not_suffix_of_leave {answer : Except Failure Unit}
    (hnext : Next setup ⟨.leave answer, s, r⟩ h') : ¬ s <:+ h'.callers := by
  intro hsuffix
  cases hnext with
  | advanced =>
    have heq := hsuffix.eq_of_length rfl
    cases heq
  | unplaced =>
    have heq := hsuffix.eq_of_length rfl
    cases heq
  | _ => exact Nat.not_succ_le_self _ hsuffix.length_le

/-- Nothing is done in a call that has returned. -/
theorem not_during_of_leave {answer : Except Failure Unit} :
    ¬ During setup s ⟨.leave answer, s, r⟩ h := by
  intro hduring
  obtain ⟨_, hnext, hsuffix, -⟩ := hduring.exists_first
  exact hnext.not_suffix_of_leave hsuffix

/-- As long as the call that runs a loop is under way, the load stays smaller than at the head of the
    loop. -/
theorem During.load_lt {l : Loop} (hduring : During setup s ⟨.round l, s, r⟩ h) :
    h.load < load ⟨.round l, s, r⟩ ∨ h = ⟨.leave (.ok ()), s, r⟩ := by
  induction hduring with
  | single hfirst => exact hfirst.1.load_lt_of_round
  | tail _ hstep ih =>
    obtain ⟨hnext, hsuffix⟩ := hstep
    rcases ih with hlt | rfl
    · exact Or.inl (Nat.lt_of_le_of_lt hnext.load_le hlt)
    · exact absurd hsuffix hnext.not_suffix_of_leave

/-- The first step of a call that runs a loop leads to the loop, if it does not return at once. -/
theorem Next.of_enter_loop {l : Loop} (hnext : Next setup ⟨.enter l.call, s, r⟩ h) :
    h = ⟨.round l, s, r⟩ ∨ h = ⟨.leave (.ok ()), s, r⟩ := by
  cases l with
  | nextDictionary =>
    cases hnext with
    | outOfService => exact Or.inr rfl
    | inService => exact Or.inl rfl
  | pump =>
    cases hnext with
    | begun => exact Or.inl rfl

/-- A call that is made while a loop is run begins with a smaller load. -/
theorem During.load_lt_of_enter {l : Loop} {call : Call} {s' : List Frame}
    (hduring : During setup s ⟨.enter l.call, s, r⟩ ⟨.enter call, s', r'⟩) :
    load ⟨.enter call, s', r'⟩ < load ⟨.enter l.call, s, r⟩ := by
  obtain ⟨h, hnext, -, hrest⟩ := hduring.exists_first
  rcases hnext.of_enter_loop with rfl | rfl
  · rcases hrest with heq | hrest
    · cases heq
    · have hsame : load ⟨.round l, s, r⟩ = load ⟨.enter l.call, s, r⟩ := by
        cases l <;> rfl
      rcases hrest.load_lt with hlt | heq
      · exact hsame ▸ hlt
      · cases heq
  · rcases hrest with heq | hrest
    · cases heq
    · exact absurd hrest not_during_of_leave

/-- A call that runs a loop is made within another one only with a smaller backlog, but for the pump that
    `nextDictionary` sets going, which may find what its caller found. -/
theorem During.backlog_of_enter {outer inner : Loop} {s' : List Frame}
    (hduring : During setup s ⟨.enter outer.call, s, r⟩ ⟨.enter inner.call, s', r'⟩) :
    r'.device.backlog ≤ r.device.backlog ∧
      (outer = .pump ∨ inner = .nextDictionary → r'.device.backlog < r.device.backlog) := by
  have hlt := hduring.load_lt_of_enter
  cases outer with
  | pump =>
    cases inner with
    | pump =>
      have : 2 * r'.device.backlog < 2 * r.device.backlog := hlt
      exact ⟨by omega, fun _ => by omega⟩
    | nextDictionary =>
      have : 2 * r'.device.backlog + 1 < 2 * r.device.backlog := hlt
      exact ⟨by omega, fun _ => by omega⟩
  | nextDictionary =>
    cases inner with
    | pump =>
      have : 2 * r'.device.backlog < 2 * r.device.backlog + 1 := hlt
      exact ⟨by omega, fun hor => by rcases hor with hor | hor <;> cases hor⟩
    | nextDictionary =>
      have : 2 * r'.device.backlog + 1 < 2 * r.device.backlog + 1 := hlt
      exact ⟨by omega, fun _ => by omega⟩

/-- Each round of a loop begins with a smaller backlog than those before it. -/
theorem During.backlog_lt_of_round {l : Loop}
    (hduring : During setup s ⟨.round l, s, r⟩ ⟨.round l, s, r'⟩) :
    r'.device.backlog < r.device.backlog := by
  rcases hduring.load_lt with hlt | heq
  · cases l with
    | nextDictionary =>
      have : 2 * r'.device.backlog + 1 < 2 * r.device.backlog + 1 := hlt
      omega
    | pump =>
      have : 2 * r'.device.backlog < 2 * r.device.backlog := hlt
      omega
  · cases heq

/-! ## Sessions that start -/

/-- What the attempt to start a session may do to the queues. -/
structure QueuesAtMost (r : DeviceRun) (answer : Except Failure Unit) (r' : DeviceRun) : Prop where
  dictionaries : r'.device.dictionaryQueue = r.device.dictionaryQueue
  waiting : r'.device.waiting.length ≤ r.device.waiting.length + 1
  unchanged : ∀ e, answer = .error e → r'.device.waiting = r.device.waiting

theorem Next.of_enter_dispatch {id : SessionId} {out : Outgoing}
    (hnext : Next setup ⟨.enter (.dispatch id out), s, r⟩ h) :
    ∃ answer r', h = ⟨.leave answer, s, r'⟩ ∧ QueuesAtMost r answer r' := by
  cases hnext with
  | attempted _ hattempt =>
    refine ⟨_, _, rfl, ?_⟩
    cases hattempt <;> exact ⟨rfl, Nat.le_succ _, fun _ _ => rfl⟩
  | queued =>
    refine ⟨_, _, rfl, rfl, ?_, fun e he => nomatch he⟩
    show (r.device.waiting ++ [(id, out)]).length ≤ _
    rw [List.length_append]
    exact Nat.le_refl _

/-- Starting a session puts at most one request into the queue, and none when it fails. -/
theorem During.queues_of_startSession {session : Session} {answer : Except Failure Unit}
    (hduring : During setup s ⟨.enter (.startSession session), s, r⟩ ⟨.leave answer, s, r'⟩) :
    QueuesAtMost r answer r' := by
  have hreturned : ∀ {answer₁ : Except Failure Unit} {r₁ : DeviceRun},
      (⟨.leave answer₁, s, r₁⟩ = (⟨.leave answer, s, r'⟩ : Handling) ∨
        During setup s ⟨.leave answer₁, s, r₁⟩ ⟨.leave answer, s, r'⟩) →
      QueuesAtMost r answer₁ r₁ → QueuesAtMost r answer r' := by
    rintro answer₁ r₁ (heq | hrest) hqueues
    · cases heq
      exact hqueues
    · exact absurd hrest not_during_of_leave
  obtain ⟨h₁, hfirst, -, hrest⟩ := hduring.exists_first
  cases hfirst with
  | refuses => exact hreturned hrest ⟨rfl, Nat.le_succ _, fun _ _ => rfl⟩
  | begins session session' out memory =>
    rcases hrest with heq | hrest
    · cases heq
    obtain ⟨h₂, hsecond, -, hrest⟩ := hrest.exists_first
    obtain ⟨answer₂, r₂, rfl, hqueues⟩ := hsecond.of_enter_dispatch
    rcases hrest with heq | hrest
    · cases heq
    obtain ⟨h₃, hthird, -, hrest⟩ := hrest.exists_first
    cases hthird with
    | started => exact hreturned hrest ⟨hqueues.dictionaries, hqueues.waiting, hqueues.unchanged⟩
    | unstarted => exact hreturned hrest ⟨hqueues.dictionaries, hqueues.waiting, hqueues.unchanged⟩

/-- At a device that is full, the first request of a session is put into the queue. -/
theorem exists_during_startSession (setup : Setup) (hfull : r.device.hasCapacity = false)
    (session : Session) (out : Outgoing) (s : List Frame) :
    ∃ r', During setup s ⟨.enter (.startSession session), s, r⟩ ⟨.leave (.ok ()), s, r'⟩ ∧
      r'.device.waiting = r.device.waiting ++ [(r.newId, out)] := by
  have hqueued : Next setup
      ⟨.enter (.dispatch r.newId out), .starting r.newId :: s,
        (r.begun r.device.memory).keepSession r.newId session⟩ _ := .queued hfull
  exact ⟨_, .head ⟨.begins session session out r.device.memory s r, List.suffix_cons _ s⟩
    (.head ⟨hqueued, List.suffix_cons _ s⟩ (.single ⟨.started r.newId s _, List.suffix_rfl⟩)), rfl⟩

/-! ## The handling of a device -/

/-- Any number of steps. -/
abbrev Steps (setup : Setup) : Handling → Handling → Prop := Relation.ReflTransGen (Next setup)

/-- Steps make the load no larger. -/
theorem load_le_of_steps (hsteps : Steps setup h h') : h'.load ≤ h.load := by
  induction hsteps with
  | refl => exact Nat.le_refl _
  | tail _ hnext ih => exact Nat.le_trans hnext.load_le ih

/-- Sending a request is one of the attempts to do so. -/
theorem attempt_sendNow (r : DeviceRun) (id : SessionId) (out : Outgoing) :
    Attempt r id out (r.sendNow id out).1 (r.sendNow id out).2 := by
  rcases r.sendNow_cases id out with ⟨r', heq, hsent⟩ | ⟨e, host, heq, -⟩
  · rw [heq]
    cases hsent
    exact .sent _ _
  · rw [heq]
    exact .refused e host

theorem steps_dispatch (setup : Setup) (r : DeviceRun) (id : SessionId) (out : Outgoing)
    (s : List Frame) :
    Steps setup ⟨.enter (.dispatch id out), s, r⟩
      ⟨.leave (r.dispatch id out).1, s, (r.dispatch id out).2⟩ := by
  unfold DeviceRun.dispatch
  split
  · rename_i hcapacity
    exact .single (.attempted hcapacity (attempt_sendNow r id out))
  · rename_i hfull
    exact .single (.queued (Bool.eq_false_iff.mpr hfull))

/-- `startSession` hands the failure of its request on. -/
theorem steps_launch (setup : Setup) (r : DeviceRun) (id : SessionId) (session : Session)
    (out : Outgoing) (s : List Frame) :
    Steps setup ⟨.enter (.dispatch id out), .starting id :: s, r.keepSession id session⟩
      ⟨.leave ((r.launch id session out).1.map fun _ => ()), s, (r.launch id session out).2⟩ := by
  have hdispatch := steps_dispatch setup (r.keepSession id session) id out (.starting id :: s)
  unfold DeviceRun.launch
  generalize (r.keepSession id session).dispatch id out = result at hdispatch ⊢
  obtain ⟨e | _, r'⟩ := result
  · exact hdispatch.tail (.unstarted e id s r')
  · exact hdispatch.tail (.started id s r')

theorem steps_startSession (setup : Setup) (r : DeviceRun) (session : Session) (s : List Frame) :
    Steps setup ⟨.enter (.startSession session), s, r⟩
      ⟨.leave ((r.startSession setup session).1.map fun _ => ()), s,
        (r.startSession setup session).2⟩ := by
  rw [DeviceRun.startSession_eq]
  rcases session.start (r.device.scope setup) r.device.memory with
    ⟨e | out | output | _, session', memory⟩
  · exact .single (.refuses session e memory s r)
  · exact .head (.begins session session' out memory s r)
      (steps_launch setup _ r.newId session' out s)
  · exact .single (.refuses session (.sessionAborted session'.state) memory s r)
  · exact .single (.refuses session (.sessionAborted session'.state) memory s r)

/-- `Settles setup h s r`: from `h` the call at hand returns to `s` in the run `r`, or in one where only
    the pump has been made in addition. -/
def Settles (setup : Setup) (h : Handling) (s : List Frame) (r : DeviceRun) : Prop :=
  ∃ r', Steps setup h ⟨.leave (.ok ()), s, r'⟩ ∧ r'.pump setup = r.pump setup

theorem Settles.of_steps (hsteps : Steps setup h ⟨.leave (.ok ()), s, r⟩) : Settles setup h s r :=
  ⟨r, hsteps, rfl⟩

theorem Settles.head (hnext : Next setup h h') (hsettles : Settles setup h' s r) :
    Settles setup h s r := by
  obtain ⟨r', hsteps, hsame⟩ := hsettles
  exact ⟨r', .head hnext hsteps, hsame⟩

/-- A call returns when its last call does. -/
theorem Settles.last (hsettles : Settles setup h (.last :: s) r) : Settles setup h s r := by
  obtain ⟨r', hsteps, hsame⟩ := hsettles
  exact ⟨r', hsteps.tail (.returned (.ok ()) s r'), hsame⟩

/-- The pump leaves nothing to do for another one. -/
theorem pump_pump (r : DeviceRun) (setup : Setup) : (r.pump setup).pump setup = r.pump setup := by
  rcases (r.rounds_pump setup).2 with hfull | hempty
  · exact DeviceRun.pump_of_full (by simp [hfull])
  · exact DeviceRun.pump_of_empty hempty

/-- Whether the handling of the pump leads where the pump does, as long as the backlog is below `n`. -/
def PumpsBelow (setup : Setup) (n : Nat) : Prop :=
  ∀ (s : List Frame) (r : DeviceRun), r.device.backlog < n →
    Steps setup ⟨.enter .pump, s, r⟩ ⟨.leave (.ok ()), s, r.pump setup⟩

section Below

variable {n : Nat}

theorem settles_startDownloads (hpump : PumpsBelow setup n) {keys : List DictionaryKey}
    (hqueue : r.device.dictionaryQueue = keys) (hbacklog : r.device.backlog < n) :
    Settles setup ⟨.round .nextDictionary, s, r⟩ s (r.startDownloads setup keys) := by
  induction keys generalizing r with
  | nil =>
    let r₁ : DeviceRun := { r with device.state := .ready }
    have hsame : r.startDownloads setup [] = r₁ := by
      show ({ r with device := { r.device with dictionaryQueue := [], state := .ready } } :
        DeviceRun) = r₁
      rw [← hqueue]
    refine ⟨r₁.pump setup, ?_, by rw [hsame, pump_pump]⟩
    exact .head (.collected hqueue)
      ((hpump (.last :: s) r₁ hbacklog).tail (.returned (.ok ()) s _))
  | cons key rest ih =>
    let r₁ : DeviceRun := { r with device.dictionaryQueue := rest }
    have hrest : r₁.device.backlog < n := by
      have hfirst := backlog_of_first hqueue
      have : r₁.device.backlog = 2 * rest.length + r.device.waiting.length := rfl
      omega
    unfold DeviceRun.startDownloads
    dsimp only
    split
    · rename_i hcomplete
      exact .head (.passed hqueue hcomplete) (ih rfl hrest)
    · rename_i hincomplete
      have hfetches : Next setup ⟨.round .nextDictionary, s, r⟩
          ⟨.enter (.startSession (.download key)), .fetching :: s, r₁⟩ :=
        .fetches hqueue (Bool.eq_false_iff.mpr hincomplete)
      have hstart := steps_startSession setup r₁ (.download key) (.fetching :: s)
      have hqueues := r₁.queues_startSession setup (.download key)
      have herror : ∀ e, (r₁.startSession setup (.download key)).1 = .error e →
          (r₁.startSession setup (.download key)).2.device.backlog = r₁.device.backlog :=
        fun _ he => DeviceRun.backlog_startSession_of_error he
      generalize r₁.startSession setup (.download key) = result at hstart hqueues herror ⊢
      obtain ⟨e | id, r₂⟩ := result
      · obtain ⟨r', hsteps, hsame⟩ := ih hqueues.1 (by rw [herror e rfl]; exact hrest)
        exact ⟨r', .head hfetches (hstart.trans (.head (.unfetched e s r₂) hsteps)), hsame⟩
      · exact .of_steps (.head hfetches (hstart.tail (.fetched s r₂)))

theorem settles_nextDictionary (hpump : PumpsBelow setup n) (hbacklog : r.device.backlog < n) :
    Settles setup ⟨.enter .nextDictionary, s, r⟩ s (r.nextDictionary setup) := by
  by_cases hservice : r.device.state = .ready ∨ r.device.state = .busy
  · rw [DeviceRun.nextDictionary_eq setup hservice]
    exact .head (.inService hservice) (settles_startDownloads hpump rfl hbacklog)
  · obtain ⟨hready, hbusy⟩ := not_or.mp hservice
    have hsame : r.nextDictionary setup = r := by
      unfold DeviceRun.nextDictionary
      split
      · contradiction
      · contradiction
      · rfl
    rw [hsame]
    exact .of_steps (.single (.outOfService hready hbusy))

theorem settles_fail (hpump : PumpsBelow setup n) (hbacklog : r.device.backlog < n)
    (id : SessionId) (task : SessionTask) (e : Failure) :
    Settles setup ⟨.enter (.fail id task e), s, r⟩ s (r.fail setup id task e) := by
  cases task with
  | negotiation phase => exact .of_steps (.single (.negotiationFailed id phase e s r))
  | download download =>
    exact .head (.downloadFailed id download e s r) (settles_nextDictionary hpump hbacklog).last
  | operation operation => exact .of_steps (.single (.operationFailed id operation e s r))

end Below

/-- The rounds of the pump lead where the pump does. -/
theorem steps_rounds (s : List Frame) (r : DeviceRun) :
    Steps setup ⟨.round .pump, s, r⟩ ⟨.leave (.ok ()), s, r.pump setup⟩ := by
  -- The induction is on the backlog: a pump that is set going within a round has a smaller one.
  induction hn : r.device.backlog using Nat.strongRecOn generalizing r s with
  | _ n ih =>
    subst hn
    have hrounds : ∀ (s : List Frame) (r' : DeviceRun), r'.device.backlog < r.device.backlog →
        Steps setup ⟨.round .pump, s, r'⟩ ⟨.leave (.ok ()), s, r'.pump setup⟩ :=
      fun s r' hlt => ih _ hlt s r' rfl
    have hpump : PumpsBelow setup r.device.backlog := fun s r' hlt =>
      .head (.begun s r') (hrounds s r' hlt)
    cases hcapacity : r.device.hasCapacity with
    | false =>
      rw [DeviceRun.pump_of_full (by simp [hcapacity])]
      exact .single (.pumped (Or.inl hcapacity))
    | true =>
      cases hwaiting : r.device.waiting with
      | nil =>
        rw [DeviceRun.pump_of_empty hwaiting]
        exact .single (.pumped (Or.inr hwaiting))
      | cons entry rest =>
        obtain ⟨id, out⟩ := entry
        rw [DeviceRun.pump_of_cons hcapacity hwaiting]
        have hlive := DeviceRun.isLive_eq r.device id
        have hbelow : 2 * r.device.dictionaryQueue.length + rest.length < r.device.backlog := by
          rw [backlog_of_oldest hwaiting]
          omega
        unfold DeviceRun.sendWaiting
        dsimp only
        split
        · rename_i hnone
          rw [hnone, Option.any_none] at hlive
          exact .head (.skipped hcapacity hwaiting hlive) (hrounds s _ hbelow)
        · rename_i session hsession
          rw [hsession, Option.any_some] at hlive
          split
          · rename_i hterminal
            rw [hterminal] at hlive
            exact .head (.skipped hcapacity hwaiting hlive) (hrounds s _ hbelow)
          · rename_i hterminal
            rw [Bool.not_eq_true] at hterminal
            rw [hterminal] at hlive
            have hattempt := attempt_sendNow { r with device.waiting := rest } id out
            generalize DeviceRun.sendNow { r with device.waiting := rest } id out = result
              at hattempt ⊢
            obtain ⟨e | _, r₂⟩ := result
            · have hsame : r₂.device.backlog < r.device.backlog :=
                Nat.lt_of_le_of_lt (Nat.le_of_eq hattempt.backlog_eq) hbelow
              obtain ⟨r', hsteps, hpumped⟩ := settles_fail (s := .pumping :: s) hpump
                (r := r₂.dropSession id) hsame id session.task e
              have hload : 2 * r'.device.backlog ≤ 2 * r₂.device.backlog + 1 :=
                load_le_of_steps hsteps
              rw [← hpumped]
              exact .head (.unsent hcapacity hwaiting hsession hterminal hattempt)
                (hsteps.trans (.head (.failed (.ok ()) s r') (hrounds s r' (by omega))))
            · exact .head (.released hcapacity hwaiting hlive hattempt)
                (hrounds s r₂ (Nat.lt_of_le_of_lt (Nat.le_of_eq hattempt.backlog_eq) hbelow))

theorem steps_pump (s : List Frame) (r : DeviceRun) :
    Steps setup ⟨.enter .pump, s, r⟩ ⟨.leave (.ok ()), s, r.pump setup⟩ :=
  .head (.begun s r) (steps_rounds s r)

theorem pumpsBelow (setup : Setup) (n : Nat) : PumpsBelow setup n := fun s r _ => steps_pump s r

theorem settles_finish (r : DeviceRun) (id : SessionId) (output : SessionOutput) :
    Settles setup ⟨.enter (.finish id output), s, r⟩ s (r.finish setup id output) := by
  cases output with
  | negotiated =>
    show Settles setup _ s (r.finishNegotiation setup)
    rw [DeviceRun.finishNegotiation_eq]
    exact .head (.negotiated id s r)
      (settles_nextDictionary (pumpsBelow setup _) (Nat.lt_succ_self _)).last
  | dictionary key =>
    exact .head (.downloaded id key s r)
      (settles_nextDictionary (pumpsBelow setup _) (Nat.lt_succ_self _)).last
  | operation result => exact .of_steps (.single (.operated id result s r))

theorem settles_advance (setup : Setup) (s : List Frame) (r : DeviceRun) (id : SessionId)
    (session : Session) (result : Except Failure DeviceEnablement.Step) :
    Settles setup ⟨.enter (.advance id session result), s, r⟩ s
      (r.advance setup id session result) := by
  rcases result with e | out | output | _
  · exact .head (.breaks id session e s r)
      (settles_fail (pumpsBelow setup _) (Nat.lt_succ_self _) id session.task e).last
  · have hdispatch := steps_dispatch setup (r.keepSession id session) id out
      (.advancing id session.task :: s)
    unfold DeviceRun.advance
    dsimp only
    generalize (r.keepSession id session).dispatch id out = result at hdispatch ⊢
    obtain ⟨e | _, r₁⟩ := result
    · have hfail : Settles setup ⟨.leave (.error e), .advancing id session.task :: s, r₁⟩ s
          ((r₁.dropSession id).fail setup id session.task e) :=
        .head (.unplaced e id session.task s r₁)
          (settles_fail (pumpsBelow setup _) (Nat.lt_succ_self _) id session.task e).last
      obtain ⟨r', hsteps, hsame⟩ := hfail
      exact ⟨r', .head (.proceeds id session out s r) (hdispatch.trans hsteps), hsame⟩
    · exact .of_steps (.head (.proceeds id session out s r)
        (hdispatch.tail (.placed id session.task s r₁)))
  · exact .head (.ends id session output s r) (settles_finish _ id output).last
  · exact .of_steps (.single (.discards id session s r))

/-- Handling a response leads where `DeviceRun.handleResponse` does. -/
theorem steps_handleResponse (r : DeviceRun) (instanceId : UInt8) (message : Option Bytes)
    (s : List Frame) :
    Steps setup ⟨.enter (.handleResponse instanceId message), s, r⟩
      ⟨.leave (.ok ()), s, r.handleResponse setup instanceId message⟩ := by
  have hlast : ∀ r : DeviceRun, Steps setup ⟨.enter .pump, .last :: s, r⟩
      ⟨.leave (.ok ()), s, r.pump setup⟩ := fun r =>
    (steps_pump (.last :: s) r).tail (.returned (.ok ()) s _)
  cases hpending : r.device.pending.get? instanceId with
  | none =>
    rw [DeviceRun.handleResponse_of_unknown hpending]
    exact .single (.unknown hpending message)
  | some request =>
    rw [DeviceRun.handleResponse_of_pending hpending]
    unfold DeviceRun.settle
    split
    · rename_i hstale
      exact .head (.ignored hpending (Or.inl hstale) message) (hlast _)
    · rename_i hcurrent
      rw [not_not] at hcurrent
      split
      · rename_i hnone
        exact .head (.ignored hpending (Or.inr hnone) message) (hlast _)
      · rename_i session hfound
        split
        · rename_i habandoned
          exact .head (.late hpending hcurrent hfound habandoned message) (hlast _)
        · rename_i hkept
          rw [Bool.not_eq_true] at hkept
          have hanswered : ∀ (session' : Session) (result : Except Failure DeviceEnablement.Step)
              (memory : DeviceMemory),
              Steps setup ⟨.enter (.handleResponse instanceId message), s, r⟩
                ⟨.leave (.ok ()), s, (({ r.freed instanceId with device.memory := memory } :
                  DeviceRun).advance setup request.session session' result).pump setup⟩ := by
            intro session' result memory
            obtain ⟨r', hsteps, hsame⟩ := settles_advance setup (.answering :: s)
              { r.freed instanceId with device.memory := memory } request.session session' result
            rw [← hsame]
            exact .head (.answered hpending hcurrent hfound hkept message session' result memory)
              (hsteps.trans (.head (.advanced (.ok ()) s r') (hlast r')))
          unfold DeviceRun.deliver
          split
          · rename_i e _
            exact hanswered session (.error e) r.device.memory
          · exact hanswered _ _ _

/-! ## The end -/

/-- That the handling of responses ends, whatever the device is like, whatever is called and whoever
    waits, and whatever becomes of the attempts on the way. -/
structure Ends (setup : Setup) : Prop where
  /-- A handling goes on until every call has returned. -/
  goes : ∀ h : Handling, (∃ h', Next setup h h') ↔ ¬ h.Returned
  /-- No course of it is longer than its allowance. -/
  bounded : ∀ (h : Handling) (course : List Handling),
    List.IsChain (Next setup) (h :: course) → course.length ≤ h.allowance
  /-- The allowance of a response grows with the backlog and the number of resources. -/
  linear : ∀ (r : DeviceRun) (instanceId : UInt8) (message : Option Bytes),
    allowance ⟨.enter (.handleResponse instanceId message), [], r⟩ =
      12 * r.device.backlog + 24 * r.device.registry.size + 31
  /-- When a call that runs a loop is made while such a call is under way, the backlog is smaller than
      at the beginning of the outer one.  Only the pump that `nextDictionary` sets going may find what
      its caller found. -/
  nested : ∀ (outer inner : Loop) (s s' : List Frame) (r r' : DeviceRun),
    During setup s ⟨.enter outer.call, s, r⟩ ⟨.enter inner.call, s', r'⟩ →
      r'.device.backlog ≤ r.device.backlog ∧
        (outer = .pump ∨ inner = .nextDictionary → r'.device.backlog < r.device.backlog)
  /-- Each round of a loop begins with a smaller backlog than those before it. -/
  rounds : ∀ (l : Loop) (s : List Frame) (r r' : DeviceRun),
    During setup s ⟨.round l, s, r⟩ ⟨.round l, s, r'⟩ → r'.device.backlog < r.device.backlog
  /-- Starting a session puts at most one request into the queue, and none when it fails. -/
  starts : ∀ (session : Session) (s : List Frame) (r r' : DeviceRun)
    (answer : Except Failure Unit),
    During setup s ⟨.enter (.startSession session), s, r⟩ ⟨.leave answer, s, r'⟩ →
      QueuesAtMost r answer r'
  /-- At a device that is full it does put one there. -/
  queues : ∀ (session : Session) (out : Outgoing) (s : List Frame) (r : DeviceRun),
    r.device.hasCapacity = false →
      ∃ r', During setup s ⟨.enter (.startSession session), s, r⟩ ⟨.leave (.ok ()), s, r'⟩ ∧
        r'.device.waiting = r.device.waiting ++ [(r.newId, out)]
  /-- What the device itself makes of a response is the end of one such course. -/
  leads : ∀ (r : DeviceRun) (instanceId : UInt8) (message : Option Bytes) (s : List Frame),
    Steps setup ⟨.enter (.handleResponse instanceId message), s, r⟩
      ⟨.leave (.ok ()), s, r.handleResponse setup instanceId message⟩

theorem allowance_handleResponse (r : DeviceRun) (instanceId : UInt8) (message : Option Bytes) :
    allowance ⟨.enter (.handleResponse instanceId message), [], r⟩ =
      12 * r.device.backlog + 24 * r.device.registry.size + 31 := by
  show 6 * (2 * r.device.backlog + (4 * r.device.registry.size + 3)) + (13 + 0) = _
  omega

/-- The handling of a response ends.  The backlog, in which a dictionary counts twice and a request
    once, carries the calls within calls and the rounds of the loops. -/
theorem response_handling_ends (setup : Setup) : Ends setup where
  goes := exists_next_iff setup
  bounded _ _ hcourse := length_le_allowance hcourse
  linear := allowance_handleResponse
  nested _ _ _ _ _ _ hduring := hduring.backlog_of_enter
  rounds _ _ _ _ hduring := hduring.backlog_lt_of_round
  starts _ _ _ _ _ hduring := hduring.queues_of_startSession
  queues session out s _ hfull := exists_during_startSession setup hfull session out s
  leads r instanceId message s := steps_handleResponse r instanceId message s

/-- A device whose download waits to send its next request, while another dictionary is to be fetched. -/
def jammedRun : DeviceRun where
  device := {
    eid := 8
    tid := 1
    uuid := ⟨0⟩
    state := .busy
    memory := { metadata := DeviceHistory.sampleSetup.config.metadata, store := { uuid := ⟨0⟩ } }
    payloads := []
    sessions := Table.insert {} ⟨1⟩ { state := .waiting, task := .download { key := ⟨1, 0⟩ } }
    waiting := [(⟨1⟩, ⟨.getSchemaDictionary, []⟩)]
    dictionaryQueue := [⟨2, 0⟩] }
  host := {}

/-- When the link of that device is down, neither the request is sent nor the next download starts. -/
theorem during_jammed : ∃ r r',
    During DeviceHistory.sampleSetup [] ⟨.enter .pump, [], jammedRun⟩
      ⟨.round .nextDictionary, [.last, .pumping], r⟩ ∧
    During DeviceHistory.sampleSetup [.last, .pumping]
      ⟨.round .nextDictionary, [.last, .pumping], r⟩
      ⟨.round .nextDictionary, [.last, .pumping], r'⟩ ∧ r'.device.dictionaryQueue = [] := by
  let stranded : DeviceRun :=
    { jammedRun with device.waiting := [] : DeviceRun }.dropSession ⟨1⟩
  let begun : DeviceRun :=
    ({ stranded with device.dictionaryQueue := [] : DeviceRun }.begun
      stranded.device.memory).keepSession ⟨1⟩ (.download ⟨2, 0⟩)
  have hcapacity : jammedRun.device.hasCapacity = true := by decide
  have hunsent : Next DeviceHistory.sampleSetup ⟨.round .pump, [], jammedRun⟩
      ⟨.enter (.fail ⟨1⟩ (.download { key := ⟨1, 0⟩ }) (.noResponse 8)), [.pumping], stranded⟩ :=
    .unsent hcapacity rfl rfl rfl (.refused (.noResponse 8) {})
  have hfetches : Next DeviceHistory.sampleSetup
      ⟨.round .nextDictionary, [.last, .pumping], stranded⟩
      ⟨.enter (.startSession (.download ⟨2, 0⟩)), [.fetching, .last, .pumping],
        { stranded with device.dictionaryQueue := [] }⟩ :=
    .fetches rfl (by decide)
  have hattempted : Next DeviceHistory.sampleSetup
      ⟨.enter (.dispatch ⟨1⟩ ⟨.getSchemaDictionary, []⟩),
        [.starting ⟨1⟩, .fetching, .last, .pumping], begun⟩
      ⟨.leave (.error (.noResponse 8)), [.starting ⟨1⟩, .fetching, .last, .pumping], begun⟩ :=
    .attempted (by decide) (.refused (.noResponse 8) {})
  refine ⟨stranded, begun.dropSession ⟨1⟩, ?_, ?_, rfl⟩
  · exact .tail (.tail (.tail (.single ⟨.begun [] jammedRun, List.nil_suffix⟩)
      ⟨hunsent, List.nil_suffix⟩) ⟨.downloadFailed _ _ _ _ _, List.nil_suffix⟩)
      ⟨.inService (Or.inr rfl), List.nil_suffix⟩
  · exact .tail (.tail (.tail (.tail (.single ⟨hfetches, ⟨[.fetching], rfl⟩⟩)
      ⟨.begins _ _ _ _ _ _, ⟨[.starting ⟨1⟩, .fetching], rfl⟩⟩)
      ⟨hattempted, ⟨[.starting ⟨1⟩, .fetching], rfl⟩⟩)
      ⟨.unstarted _ _ _ _, ⟨[.fetching], rfl⟩⟩) ⟨.unfetched _ _ _, List.suffix_rfl⟩

/-- There the pump is set going within the pump, behind a round of `nextDictionary` in vain, and finds
    less to do than before. -/
theorem response_handling_ends_jammed : ∃ s r r₁ r₂,
    During DeviceHistory.sampleSetup [] ⟨.enter .pump, [], jammedRun⟩ ⟨.enter .pump, s, r⟩ ∧
      r.device.backlog < jammedRun.device.backlog ∧
    During DeviceHistory.sampleSetup [.last, .pumping]
      ⟨.round .nextDictionary, [.last, .pumping], r₁⟩
      ⟨.round .nextDictionary, [.last, .pumping], r₂⟩ ∧ r₂.device.backlog < r₁.device.backlog := by
  obtain ⟨r₁, r₂, hbefore, hround, hempty⟩ := during_jammed
  have hnested : During DeviceHistory.sampleSetup [] ⟨.enter .pump, [], jammedRun⟩
      ⟨.enter .pump, [.last, .last, .pumping], { r₂ with device.state := .ready }⟩ :=
    .tail (hbefore.trans (hround.weaken List.nil_suffix)) ⟨.collected hempty, List.nil_suffix⟩
  have hends := response_handling_ends DeviceHistory.sampleSetup
  exact ⟨_, _, r₁, r₂, hnested, (hends.nested .pump .pump _ _ _ _ hnested).2 (Or.inl rfl), hround,
    hends.rounds .nextDictionary _ _ _ hround⟩

end Handling

end DeviceEnablement
