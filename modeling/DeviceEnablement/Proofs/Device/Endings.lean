/-
  A session that has ended stays so.

  A session has ended when its number was given out and it is not live: it was completed, it failed,
  or it was given up (`Device.Ended`).  Numbers are not given out twice, and a session that was
  given up is only kept until its response is there.  So it never becomes live again, and the device
  sends nothing more for it: what is outstanding for it later on was outstanding before
  (`StaysEnded`).

  1. `Moves.staysEnded`, `Answered.staysEnded`, `Started.staysEnded`: what a device does by itself.
  2. `Acted` puts together what a call comes to for the host and for the sessions; there is one
     lemma for each call (`acted_refresh`, `acted_startOperation`, `acted_abandon`, `acted_answer`).
  3. `ended_abandon`: giving a session up ends it.
-/
import DeviceEnablement.Proofs.Device.Exchange
import DeviceEnablement.Proofs.Device.Reports

namespace DeviceEnablement

/-- Whether the number of a session was given out, and the session is not live. -/
structure Device.Ended (d : Device) (id : SessionId) : Prop where
  number : id.value < d.nextSession
  dead : d.isLive id = false

namespace DeviceRun

/-- Whether a session has ended in `r'`, and nothing was sent for it since `r`. -/
structure StaysEnded (id : SessionId) (r r' : DeviceRun) : Prop where
  ended : r'.device.Ended id
  requests : ∀ k request, r'.device.pending.get? k = some request → request.session = id →
    r.device.pending.get? k = some request

variable {setup : Setup} {r r' r'' : DeviceRun} {id other : SessionId} {s : Session}
  {out : Outgoing}

theorem StaysEnded.trans (h : StaysEnded id r r') (h' : StaysEnded id r' r'') :
    StaysEnded id r r'' where
  ended := h'.ended
  requests k request hk hid := h.requests k request (h'.requests k request hk hid) hid

/-! ## Changes of the sessions -/

theorem isLive_dropSession (hdead : r.device.isLive id = false) (other : SessionId) :
    (r.dropSession other).device.isLive id = false := by
  rw [isLive_eq] at hdead ⊢
  unfold dropSession
  rw [Table.get?_erase]
  split
  · rfl
  · exact hdead

theorem isLive_keepSession_of_ne (hne : id ≠ other) (s : Session) :
    (r.keepSession other s).device.isLive id = r.device.isLive id := by
  rw [isLive_eq, isLive_eq]
  unfold keepSession
  rw [Table.get?_insert, if_neg hne]

/-- A session that was found and has ended is terminal. -/
theorem isTerminal_of_dead (hdead : r.device.isLive id = false)
    (hs : r.device.sessions.get? id = some s) : s.state.isTerminal = true := by
  rw [isLive_eq, hs, Option.any_some] at hdead
  simpa using hdead

/-! ## Moves and answers -/

theorem staysEnded_of_same (h : r.device.Ended id)
    (hsessions : r'.device.sessions = r.device.sessions)
    (hnext : r.device.nextSession ≤ r'.device.nextSession)
    (hpending : r'.device.pending = r.device.pending) : StaysEnded id r r' where
  ended := {
    number := Nat.lt_of_lt_of_le h.number hnext
    dead := by
      have hdead := h.dead
      rw [isLive_eq] at hdead ⊢
      rw [hsessions]
      exact hdead }
  requests := by
    rw [hpending]
    exact fun _ _ hk _ => hk

theorem staysEnded_dropSession (h : r.device.Ended id) (other : SessionId) :
    StaysEnded id r (r.dropSession other) where
  ended := ⟨h.number, isLive_dropSession h.dead other⟩
  requests _ _ hk _ := hk

theorem staysEnded_keepSession (h : r.device.Ended id) (hne : id ≠ other) (s : Session) :
    StaysEnded id r (r.keepSession other s) where
  ended := ⟨h.number, (isLive_keepSession_of_ne hne s).trans h.dead⟩
  requests _ _ hk _ := hk

theorem Resembles.staysEnded (hresembles : r.Resembles r') (h : r.device.Ended id) :
    StaysEnded id r r' :=
  staysEnded_of_same h hresembles.traffic.sessions
    (Nat.le_of_eq hresembles.traffic.nextSession.symm) hresembles.traffic.pending

/-- A request that is sent for another session. -/
theorem Sent.staysEnded (hsent : Sent r other out r') (h : r.device.Ended id) (hne : id ≠ other) :
    StaysEnded id r r' := by
  cases hsent with
  | @intro instanceId ids message transport _ _ _ =>
    refine ⟨⟨h.number, h.dead⟩, fun k request hk hid => ?_⟩
    change (r.device.pending.insert instanceId _).get? k = some request at hk
    rw [Table.get?_insert] at hk
    split at hk
    · cases hk
      exact absurd hid.symm hne
    · exact hk

theorem Placed.staysEnded (hplaced : Placed r other out r') (h : r.device.Ended id)
    (hne : id ≠ other) : StaysEnded id r r' := by
  cases hplaced with
  | sent _ hsent => exact hsent.staysEnded h hne
  | queued => exact staysEnded_of_same h rfl (Nat.le_refl _) rfl

theorem Closed.staysEnded (hclosed : Closed r other s r') (h : r.device.Ended id) :
    StaysEnded id r r' := by
  have hdropped := staysEnded_dropSession h other
  cases hclosed with
  | silent => exact hdropped
  | reported => exact ⟨⟨hdropped.ended.number, hdropped.ended.dead⟩, hdropped.requests⟩

/-- A session that begins has a number that was not given out before. -/
theorem Started.staysEnded {result : Except Failure SessionId × DeviceRun}
    (hstarted : Started setup r s result) (h : r.device.Ended id) :
    StaysEnded id r result.2 := by
  have hne : id ≠ r.newId := by
    rintro rfl
    exact Nat.lt_irrefl _ h.number
  have hbegun : ∀ memory host, StaysEnded id r { r.begun memory with host } :=
    fun memory host => staysEnded_of_same h rfl (Nat.le_succ _) rfl
  cases hstarted with
  | @placed _ s' memory _ _ hplaced =>
    have hkept := (hbegun memory r.host).trans
      (staysEnded_keepSession (hbegun memory r.host).ended hne s')
    exact hkept.trans (hplaced.staysEnded hkept.ended hne)
  | refused e memory => exact hbegun memory r.host
  | @unsent e memory host =>
    exact (hbegun memory host).trans (staysEnded_dropSession (hbegun memory host).ended _)

theorem Move.staysEnded (hmove : Move setup r r') (h : r.device.Ended id) :
    StaysEnded id r r' := by
  cases hmove with
  | turn => exact staysEnded_of_same h rfl (Nat.le_refl _) rfl
  | download hstarted => exact hstarted.staysEnded h
  | @released _ other out rest _ _ hlive hsent =>
    -- Only the request of a live session is released.
    have hne : id ≠ other := by
      rintro rfl
      cases h.dead.symm.trans hlive
    have hpopped : StaysEnded id r { r with device.waiting := rest } :=
      staysEnded_of_same h rfl (Nat.le_refl _) rfl
    exact hpopped.trans (hsent.staysEnded hpopped.ended hne)
  | @unsent _ _ _ rest _ host _ _ _ _ hclosed =>
    have hrefused : StaysEnded id r { r with host, device.waiting := rest } :=
      staysEnded_of_same h rfl (Nat.le_refl _) rfl
    exact hrefused.trans (hclosed.staysEnded hrefused.ended)
  | skipped => exact staysEnded_of_same h rfl (Nat.le_refl _) rfl

theorem Moves.staysEnded (hmoves : Moves setup r r') (h : r.device.Ended id) :
    StaysEnded id r r' := by
  induction hmoves with
  | refl => exact staysEnded_of_same h rfl (Nat.le_refl _) rfl
  | tail _ hmove ih => exact ih.trans (hmove.staysEnded ih.ended)

theorem Answered.staysEnded {request : PendingRequest} (hanswered : Answered setup r request r')
    (ho : r.device.Orderly) (h : r.device.Ended id) : StaysEnded id r r' := by
  cases hanswered with
  | stale => exact staysEnded_of_same h rfl (Nat.le_refl _) rfl
  | orphan => exact staysEnded_of_same h rfl (Nat.le_refl _) rfl
  | @continued s s' memory _ _ _ _ hs hkept _ hplaced =>
    -- Only a session that was not given up goes on.
    have hne : id ≠ request.session := by
      rintro rfl
      have hterminal := isTerminal_of_dead h.dead hs
      rw [ho.isTerminal_eq hs, hkept] at hterminal
      cases hterminal
    have hlearned : StaysEnded id r { r with device.memory := memory } :=
      staysEnded_of_same h rfl (Nat.le_refl _) rfl
    have hgoing := hlearned.trans (staysEnded_keepSession hlearned.ended hne s')
    exact hgoing.trans (hplaced.staysEnded hgoing.ended hne)
  | @closed s memory host _ _ _ _ hclosed =>
    have hlearned : StaysEnded id r { r with host, device.memory := memory } :=
      staysEnded_of_same h rfl (Nat.le_refl _) rfl
    exact hlearned.trans (hclosed.staysEnded hlearned.ended)

/-! ## Calls -/

/-- Whether the device has come from `before` to `after` by a call in which it has sent the requests
    `new`. -/
structure Acted (before : DeviceRun) (new : List SentRequest) (after : DeviceRun) : Prop
    extends Exchanged before new after where
  orderly : after.device.Orderly
  next : before.device.nextSession ≤ after.device.nextSession
  stays : ∀ id, before.device.Ended id → StaysEnded id before after

theorem Acted.of_same (ho : r.device.Orderly) (hresembles : r.Resembles r') : Acted r [] r' where
  toExchanged := hresembles.exchanged
  orderly := ho.of_sessions hresembles.traffic.sessions
    (Nat.le_of_eq hresembles.traffic.nextSession.symm)
  next := Nat.le_of_eq hresembles.traffic.nextSession.symm
  stays _ h := hresembles.staysEnded h

theorem Acted.of_resembles {new : List SentRequest} (hacted : Acted r' new r'')
    (hresembles : r.Resembles r') : Acted r new r'' where
  toExchanged := by
    have htrans := hresembles.exchanged.trans hacted.toExchanged
    rwa [List.append_nil] at htrans
  orderly := hacted.orderly
  next := hresembles.traffic.nextSession ▸ hacted.next
  stays id h := by
    have hlearned := hresembles.staysEnded h
    exact hlearned.trans (hacted.stays id hlearned.ended)

/-- Refreshing reports the operations that it cancels, and no other. -/
theorem faithful_refresh (ho : r.device.Orderly) (setup : Setup) :
    Faithful r (r.refresh setup) := by
  have hcancelled := faithful_cancelAll ho .cancelled
  cases refreshed_refresh r setup with
  | unread hlearned =>
    exact hcancelled.trans (hlearned.sameSessions.faithful hcancelled.orderly)
  | negotiating hlearned hstarted hsettled =>
    have hlearned' := hcancelled.trans (hlearned.sameSessions.faithful hcancelled.orderly)
    have hbegun := hlearned'.trans (faithful_started hlearned'.orderly hstarted rfl)
    exact hbegun.trans (hsettled.sameSessions.faithful hbegun.orderly)

theorem acted_refresh (ho : r.device.Orderly) (setup : Setup) :
    ∃ new, Acted r new (r.refresh setup) := by
  obtain ⟨new, hexchanged⟩ := exchanged_refresh r setup
  have hfaithful := faithful_refresh ho setup
  refine ⟨new, ⟨hexchanged, hfaithful.orderly, hfaithful.next, fun id h => ?_⟩⟩
  have hcancelled : StaysEnded id r (r.cancelAll .cancelled) :=
    ⟨⟨h.number, rfl⟩, fun _ _ hk _ => hk⟩
  cases refreshed_refresh r setup with
  | unread hlearned => exact hcancelled.trans (hlearned.staysEnded hcancelled.ended)
  | negotiating hlearned hstarted hsettled =>
    have hlearned' := hcancelled.trans (hlearned.staysEnded hcancelled.ended)
    have hbegun := hlearned'.trans (hstarted.staysEnded hlearned'.ended)
    exact hbegun.trans (hsettled.staysEnded hbegun.ended)

theorem since_startOperation (ho : r.device.Orderly) (setup : Setup)
    (request : OperationRequest) : Since r (r.startOperation setup request).2 := by
  have hbegun := begun_startOperation r setup request
  generalize r.startOperation setup request = result at hbegun
  cases hbegun with
  | refused => exact (SameSessions.faithful {} ho).toSince
  | started _ hstarted =>
    have hlearned' := (r.resembles_counted.sameSessions.faithful ho).toSince
    exact hlearned'.trans (since_started hlearned'.orderly hstarted)

theorem acted_startOperation (ho : r.device.Orderly) (setup : Setup) (request : OperationRequest) :
    ∃ new, Acted r new (r.startOperation setup request).2 := by
  obtain ⟨new, hexchanged⟩ := exchanged_startOperation r setup request
  have hsince := since_startOperation ho setup request
  refine ⟨new, ⟨hexchanged, hsince.orderly, hsince.next, fun id h => ?_⟩⟩
  have hbegun := begun_startOperation r setup request
  generalize r.startOperation setup request = result at hbegun
  cases hbegun with
  | refused => exact staysEnded_of_same h rfl (Nat.le_refl _) rfl
  | started _ hstarted =>
    have hlearned' := r.resembles_counted.staysEnded h
    exact hlearned'.trans (hstarted.staysEnded hlearned'.ended)

theorem acted_abandon (ho : r.device.Orderly) (other : SessionId) {state : SessionState}
    (ha : state.isAbandoned = true) : Acted r [] (r.abandon other state).2 := by
  have hsince := since_abandon ho other ha
  refine ⟨exchanged_abandon r other state, hsince.orderly, hsince.next, fun id h => ?_⟩
  have habandoned := abandoned_abandon r other state
  generalize r.abandon other state = result at habandoned
  have hwithdrawn : StaysEnded id r (r.withdrawn other) :=
    staysEnded_of_same h rfl (Nat.le_refl _) rfl
  cases habandoned with
  | ended => exact staysEnded_of_same h rfl (Nat.le_refl _) rfl
  | @marked s request hs hlive _ _ =>
    have hne : id ≠ other := by
      rintro rfl
      cases hlive.symm.trans (isTerminal_of_dead h.dead hs)
    exact hwithdrawn.trans (staysEnded_keepSession hwithdrawn.ended hne _)
  | forgotten => exact hwithdrawn.trans (staysEnded_dropSession hwithdrawn.ended other)

theorem faithful_answer (ho : r.device.Orderly) (setup : Setup) {instanceId : UInt8}
    {request : PendingRequest} (hpending : r.device.pending.get? instanceId = some request)
    (message : Option Bytes) : Faithful r (r.handleResponse setup instanceId message) := by
  obtain ⟨r₁, hanswered, hmoves⟩ := answered_handleResponse setup hpending message
  have hfaithful := faithful_answered ho hanswered
  exact hfaithful.trans (faithful_moves hfaithful.orderly hmoves)

theorem acted_answer (ho : r.device.Orderly) (setup : Setup) {instanceId : UInt8}
    {request : PendingRequest} (hpending : r.device.pending.get? instanceId = some request)
    (message : Option Bytes) :
    ∃ new, Acted (r.freed instanceId) new (r.handleResponse setup instanceId message) := by
  obtain ⟨new, hexchanged⟩ := exchanged_answer setup hpending message
  have hfaithful := faithful_answer ho setup hpending message
  refine ⟨new, ⟨hexchanged, hfaithful.orderly, hfaithful.next, fun id h => ?_⟩⟩
  obtain ⟨r₁, hanswered, hmoves⟩ := answered_handleResponse setup hpending message
  have ho' : (r.freed instanceId).device.Orderly := ho.of_sessions rfl (Nat.le_refl _)
  have hends := hanswered.staysEnded ho' h
  exact hends.trans (hmoves.staysEnded hends.ended)

/-- A session that is given up is not live, whether or not there was anything to give up. -/
theorem isLive_abandon (r : DeviceRun) (id : SessionId) {state : SessionState}
    (ha : state.isAbandoned = true) : (r.abandon id state).2.device.isLive id = false := by
  have hterminal : state.isTerminal = true := by
    cases state <;> first | rfl | cases ha
  rw [isLive_eq]
  unfold abandon
  split
  · rename_i hnone
    rw [hnone]
    rfl
  · rename_i s hs
    split
    · rename_i hended
      rw [hs, Option.any_some, hended]
      rfl
    · dsimp only
      split
      · unfold keepSession
        rw [Table.get?_insert, if_pos rfl, Option.any_some, hterminal]
        rfl
      · unfold dropSession
        rw [Table.get?_erase, if_pos rfl]
        rfl

theorem ended_abandon (hid : id.value < r.device.nextSession) {state : SessionState}
    (ha : state.isAbandoned = true) : (r.abandon id state).2.device.Ended id where
  number := by
    have habandoned := abandoned_abandon r id state
    generalize r.abandon id state = result at habandoned
    cases habandoned <;> exact hid
  dead := isLive_abandon r id ha

end DeviceRun

end DeviceEnablement
