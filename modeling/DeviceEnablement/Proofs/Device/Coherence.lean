/-
  Sessions and their requests.

  A session that waits for a response has one request: outstanding in the current generation, or
  held back.  `Device.Coherent hole` says so of every session but `hole`, which has none for the
  moment: its answer has come, or its request was taken from the queue, or it has just begun.

  1. `Coherent.freed`, `Coherent.pop`, `Coherent.vacate` make the hole.
  2. `Coherent.keep` puts a session into the hole, and `Coherent.sent`, `Coherent.queue` give it a
     request; `Coherent.drop` leaves nothing there.
  3. `Coherent.clear` is about cancelling, `Coherent.withdraw` and `Coherent.mark` about giving up.
-/
import DeviceEnablement.Proofs.Device.Sessions

namespace DeviceEnablement.Device

/-- The outstanding requests of a session; stale ones do not count. -/
def outstandingOf (d : Device) (id : SessionId) : Nat :=
  d.pending.values.countP fun request =>
    request.session = id && request.generation = d.generation

/-- The requests of a session that are held back. -/
def queuedOf (d : Device) (id : SessionId) : Nat :=
  d.waiting.countP fun entry => entry.1 = id

/-- Whether a session has the requests it should have: one if there is a session, which is
    outstanding if the session was given up, and none if there is no session. -/
def HasRequests (d : Device) (id : SessionId) : Option Session → Prop
  | none => d.outstandingOf id = 0 ∧ d.queuedOf id = 0
  | some s => d.outstandingOf id + d.queuedOf id = 1
      ∧ (s.state.isAbandoned = true → d.queuedOf id = 0)

/-- Whether sessions and requests belong together, apart from the session `hole`, which has no
    request. -/
structure Coherent (hole : Option SessionId) (d : Device) : Prop extends d.Orderly where
  pendingNumbers : ∀ request ∈ d.pending.values, request.session.value < d.nextSession
  /-- No request is of a generation to come. -/
  generations : ∀ request ∈ d.pending.values, request.generation ≤ d.generation
  /-- The session of a stale request is gone. -/
  stale : ∀ request ∈ d.pending.values, request.generation ≠ d.generation →
    d.sessions.get? request.session = none
  vacant : ∀ id, hole = some id → d.HasRequests id none
  requests : ∀ id, hole ≠ some id → d.HasRequests id (d.sessions.get? id)

variable {d : Device} {hole : Option SessionId} {id : SessionId} {s : Session}

/-! ## Counting -/

theorem outstandingOf_insert {k : UInt8} (h : d.pending.get? k = none) (request : PendingRequest)
    (id : SessionId) :
    { d with pending := d.pending.insert k request }.outstandingOf id = d.outstandingOf id +
      if request.session = id ∧ request.generation = d.generation then 1 else 0 := by
  unfold outstandingOf
  rw [Table.values_insert h, List.countP_append, List.countP_singleton]
  simp

theorem outstandingOf_erase {k : UInt8} {request : PendingRequest}
    (h : d.pending.get? k = some request) (id : SessionId) :
    d.outstandingOf id = { d with pending := d.pending.erase k }.outstandingOf id +
      if request.session = id ∧ request.generation = d.generation then 1 else 0 := by
  unfold outstandingOf
  rw [(Table.perm_values_erase h).countP_eq, List.countP_cons]
  simp

theorem queuedOf_append (d : Device) (entry : SessionId × Outgoing) (id : SessionId) :
    { d with waiting := d.waiting ++ [entry] }.queuedOf id = d.queuedOf id +
      if entry.1 = id then 1 else 0 := by
  unfold queuedOf
  rw [List.countP_append, List.countP_singleton]
  simp

theorem queuedOf_cons {entry : SessionId × Outgoing} {rest : List (SessionId × Outgoing)}
    (h : d.waiting = entry :: rest) (id : SessionId) :
    d.queuedOf id = { d with waiting := rest }.queuedOf id + if entry.1 = id then 1 else 0 := by
  unfold queuedOf
  rw [h, List.countP_cons]
  simp

theorem queuedOf_filter (d : Device) (id other : SessionId) :
    { d with waiting := d.waiting.filter fun entry => entry.1 ≠ id }.queuedOf other =
      if other = id then 0 else d.queuedOf other := by
  unfold queuedOf
  rw [List.countP_filter]
  split
  · rename_i he
    refine List.countP_eq_zero.mpr fun entry _ => ?_
    simp [he]
  · rename_i hne
    refine List.countP_congr fun entry _ => ?_
    simp only [decide_eq_true_eq, Bool.and_eq_true, ne_eq, and_iff_left_iff_imp]
    rintro rfl
    exact hne

theorem outstandingOf_pos {request : PendingRequest} (h : request ∈ d.pending.values)
    (hgeneration : request.generation = d.generation) : 0 < d.outstandingOf request.session :=
  List.countP_pos_iff.mpr ⟨request, h, by simpa using hgeneration⟩

theorem queuedOf_pos {entry : SessionId × Outgoing} (h : entry ∈ d.waiting) :
    0 < d.queuedOf entry.1 :=
  List.countP_pos_iff.mpr ⟨entry, h, by simp⟩

theorem HasRequests.congr {o : Option Session} (h : d.HasRequests id o) {d' : Device}
    (houtstanding : d'.outstandingOf id = d.outstandingOf id)
    (hqueued : d'.queuedOf id = d.queuedOf id) : d'.HasRequests id o := by
  cases o with
  | none => exact ⟨houtstanding.trans h.1, hqueued.trans h.2⟩
  | some s => exact ⟨by rw [houtstanding, hqueued]; exact h.1, fun ha => hqueued.trans (h.2 ha)⟩

theorem coherent_new (setup : Setup) (eid tid : UInt8) (uuid : Uuid) (payloads : List Bytes)
    (folder : Folder) : (Device.new setup eid tid uuid payloads folder).Coherent none where
  toOrderly := orderly_of_empty rfl
  pendingNumbers _ hr := absurd hr List.not_mem_nil
  generations _ hr := absurd hr List.not_mem_nil
  stale _ hr := absurd hr List.not_mem_nil
  vacant _ hid := by cases hid
  requests _ _ := ⟨rfl, rfl⟩

namespace Coherent

theorem congr (h : d.Coherent hole) {d' : Device} (same : d.SameTraffic d') :
    d'.Coherent hole := by
  have hrequests : ∀ {id o}, d.HasRequests id o → d'.HasRequests id o := by
    intro id o ho
    refine ho.congr ?_ ?_
    · unfold outstandingOf
      rw [same.pending, same.generation]
    · unfold queuedOf
      rw [same.waiting]
  constructor
  · exact h.of_sessions same.sessions (Nat.le_of_eq same.nextSession.symm)
  · rw [same.pending, same.nextSession]; exact h.pendingNumbers
  · rw [same.pending, same.generation]; exact h.generations
  · rw [same.pending, same.generation, same.sessions]; exact h.stale
  · exact fun id hid => hrequests (h.vacant id hid)
  · rw [same.sessions]; exact fun id hid => hrequests (h.requests id hid)

/-! ## Reading -/

section Whole

variable (h : d.Coherent none)
include h

theorem of_missing (hs : d.sessions.get? id = none) :
    d.outstandingOf id = 0 ∧ d.queuedOf id = 0 := by
  have := h.requests id (by simp)
  rwa [hs] at this

theorem of_found (hs : d.sessions.get? id = some s) :
    d.outstandingOf id + d.queuedOf id = 1
      ∧ (s.state.isAbandoned = true → d.queuedOf id = 0) := by
  have := h.requests id (by simp)
  rwa [hs] at this

/-- Each request of the current generation is that of a session. -/
theorem found_of_pending {request : PendingRequest} (hmem : request ∈ d.pending.values)
    (hgeneration : request.generation = d.generation) :
    ∃ s, d.sessions.get? request.session = some s := by
  have hpos := outstandingOf_pos hmem hgeneration
  cases hs : d.sessions.get? request.session with
  | some s => exact ⟨s, rfl⟩
  | none =>
    have := (h.of_missing hs).1
    omega

/-- A session has no more than one outstanding request. -/
theorem outstandingOf_own (hs : d.sessions.get? id = some s) {request : PendingRequest}
    (hmem : request ∈ d.pending.values) (hown : request.session = id) :
    d.outstandingOf id = 1 := by
  have hcurrent : request.generation = d.generation := by
    refine Decidable.byContradiction fun hold => ?_
    have hgone := h.stale request hmem hold
    rw [hown] at hgone
    cases hs.symm.trans hgone
  have hpos := outstandingOf_pos hmem hcurrent
  have hone := (h.of_found hs).1
  rw [hown] at hpos
  omega

/-- Each request in the queue is that of a session that waits. -/
theorem found_of_queued {entry : SessionId × Outgoing} (hmem : entry ∈ d.waiting) :
    ∃ s, d.sessions.get? entry.1 = some s ∧ s.state = .waiting := by
  have hpos := queuedOf_pos hmem
  cases hs : d.sessions.get? entry.1 with
  | none =>
    have := (h.of_missing hs).2
    omega
  | some s =>
    rcases h.states _ s hs with hwaiting | habandoned
    · exact ⟨s, rfl, hwaiting⟩
    · have := (h.of_found hs).2 habandoned
      omega

/-- The session of the oldest request in the queue waits. -/
theorem found_of_oldest {out : Outgoing} {rest : List (SessionId × Outgoing)}
    (hw : d.waiting = (id, out) :: rest) :
    ∃ s, d.sessions.get? id = some s ∧ s.state = .waiting := by
  have hmem : (id, out) ∈ d.waiting := by
    rw [hw]
    exact List.mem_cons_self
  exact h.found_of_queued hmem

/-! ## Making the hole -/

/-- The session whose request is answered has no request left. -/
theorem freed {k : UInt8} {request : PendingRequest} (hk : d.pending.get? k = some request) :
    { d with pending := d.pending.erase k }.Coherent
      (if request.generation = d.generation then some request.session else none) := by
  have hmem : request ∈ d.pending.values := Table.mem_values hk
  have hvalues : ∀ other ∈ (d.pending.erase k).values, other ∈ d.pending.values :=
    fun _ => Table.mem_values_of_mem_erase
  refine ⟨h.of_sessions rfl (Nat.le_refl _),
    fun other ho => h.pendingNumbers other (hvalues other ho),
    fun other ho => h.generations other (hvalues other ho),
    fun other ho => h.stale other (hvalues other ho), ?_, ?_⟩
  · intro id hid
    split at hid
    · -- The request of this session was the one that is answered.
      rename_i hgeneration
      cases hid
      have hcount := outstandingOf_erase hk request.session
      rw [if_pos ⟨rfl, hgeneration⟩] at hcount
      obtain ⟨s, hs⟩ := h.found_of_pending hmem hgeneration
      have hone := (h.of_found hs).1
      show _ = 0 ∧ d.queuedOf request.session = 0
      omega
    · cases hid
  · intro id hne
    have hcount := outstandingOf_erase hk id
    rw [if_neg (by rintro ⟨rfl, hg⟩; exact hne (if_pos hg))] at hcount
    exact (h.requests id (by simp)).congr hcount.symm rfl

/-- The session whose request is taken from the queue has no request left. -/
theorem pop {out : Outgoing} {rest : List (SessionId × Outgoing)}
    (hw : d.waiting = (id, out) :: rest) : { d with waiting := rest }.Coherent (some id) := by
  refine ⟨h.of_sessions rfl (Nat.le_refl _), h.pendingNumbers, h.generations, h.stale, ?_, ?_⟩
  · rintro _ ⟨⟩
    obtain ⟨s, hs, -⟩ := h.found_of_oldest hw
    have hcount := queuedOf_cons hw id
    rw [if_pos rfl] at hcount
    have hone : d.outstandingOf id + d.queuedOf id = 1 := (h.of_found hs).1
    show d.outstandingOf id = 0 ∧ _ = 0
    omega
  · intro other hne
    have hcount := queuedOf_cons hw other
    rw [if_neg (fun he => hne (congrArg some he))] at hcount
    exact (h.requests other (by simp)).congr rfl hcount.symm

/-- A number that has no session has no request. -/
theorem vacate (hs : d.sessions.get? id = none) : d.Coherent (some id) := by
  refine ⟨h.toOrderly, h.pendingNumbers, h.generations, h.stale, ?_, fun other _ => ?_⟩
  · rintro _ ⟨⟩
    exact h.of_missing hs
  · exact h.requests other (by simp)

/-- A number that is given out changes nothing else. -/
theorem grow : { d with nextSession := d.nextSession + 1 }.Coherent none :=
  ⟨h.of_sessions rfl (Nat.le_succ _),
    fun request hr => Nat.lt_succ_of_lt (h.pendingNumbers request hr), h.generations, h.stale,
    h.vacant, h.requests⟩

end Whole

/-! ## Filling the hole -/

section Hole

variable (h : d.Coherent (some id))
include h

/-- Nothing is left in the hole. -/
theorem drop : { d with sessions := d.sessions.erase id }.Coherent none := by
  refine ⟨h.of_erase rfl (Nat.le_refl _), h.pendingNumbers, h.generations, ?_,
    fun other ho => (by cases ho), ?_⟩
  · intro request hr hold
    show (d.sessions.erase id).get? _ = none
    rw [Table.get?_erase, h.stale request hr hold]
    split <;> rfl
  · intro other _
    show HasRequests _ other ((d.sessions.erase id).get? other)
    rw [Table.get?_erase]
    split
    · rename_i he
      exact he ▸ h.vacant id rfl
    · rename_i hne
      exact h.requests other (fun he => hne (Option.some.inj he).symm)

/-- A session that waits for a response is put into the hole, which is not that of a stale
    request. -/
theorem keep (hs : s.state = .waiting) (hid : id.value < d.nextSession)
    (hfresh : ∀ request ∈ d.pending.values, request.generation ≠ d.generation →
      request.session ≠ id) :
    { d with sessions := d.sessions.insert id s }.Coherent (some id) := by
  have hget : ∀ other, (d.sessions.insert id s).get? other =
      if other = id then some s else d.sessions.get? other := fun other => Table.get?_insert ..
  refine ⟨h.of_insert rfl (Nat.le_refl _) (Or.inl hs) hid, h.pendingNumbers, h.generations, ?_,
    h.vacant, ?_⟩
  · intro request hr hold
    show (d.sessions.insert id s).get? _ = none
    rw [hget, if_neg (hfresh request hr hold)]
    exact h.stale request hr hold
  · intro other hne
    show HasRequests _ other ((d.sessions.insert id s).get? other)
    rw [hget, if_neg (fun he => hne (congrArg some he.symm))]
    exact h.requests other hne

/-- A session in the hole gets a request that is outstanding. -/
theorem sent (hs : d.sessions.get? id = some s) {k : UInt8} (hk : d.pending.get? k = none)
    (command : Command) :
    { d with pending := d.pending.insert k ⟨id, d.generation, command⟩ }.Coherent none := by
  have hcount := outstandingOf_insert hk ⟨id, d.generation, command⟩
  refine ⟨h.of_sessions rfl (Nat.le_refl _),
    (Table.forall_values_insert hk).mpr ⟨h.pendingNumbers, h.numbers id s hs⟩,
    (Table.forall_values_insert hk).mpr ⟨h.generations, Nat.le_refl _⟩,
    (Table.forall_values_insert hk).mpr ⟨h.stale, fun hold => absurd rfl hold⟩,
    fun _ ho => (by cases ho), ?_⟩
  intro other _
  have hc := hcount other
  by_cases he : id = other
  · subst he
    rw [if_pos ⟨rfl, rfl⟩] at hc
    have hzero : d.outstandingOf id = 0 ∧ d.queuedOf id = 0 := h.vacant id rfl
    show HasRequests _ id (d.sessions.get? id)
    rw [hs]
    show _ + d.queuedOf id = 1 ∧ (_ → d.queuedOf id = 0)
    omega
  · rw [if_neg (fun hand => he hand.1)] at hc
    exact (h.requests other (fun hh => he (Option.some.inj hh))).congr hc rfl

/-- A session in the hole gets a request that is held back. -/
theorem queue (hs : d.sessions.get? id = some s) (hw : s.state = .waiting) (out : Outgoing) :
    { d with waiting := d.waiting ++ [(id, out)] }.Coherent none := by
  have hcount := queuedOf_append d (id, out)
  refine ⟨h.of_sessions rfl (Nat.le_refl _), h.pendingNumbers, h.generations, h.stale,
    fun _ ho => (by cases ho), ?_⟩
  intro other _
  have hc := hcount other
  by_cases he : id = other
  · subst he
    rw [if_pos rfl] at hc
    have hzero : d.outstandingOf id = 0 ∧ d.queuedOf id = 0 := h.vacant id rfl
    show HasRequests _ id (d.sessions.get? id)
    rw [hs]
    refine ⟨?_, fun ha => ?_⟩
    · show d.outstandingOf id + _ = 1
      omega
    · rw [hw] at ha
      cases ha
  · rw [if_neg he] at hc
    exact (h.requests other (fun hh => he (Option.some.inj hh))).congr rfl hc

end Hole

/-! ## Cancelling and giving up -/

/-- Without sessions, and in a generation of its own, a device is coherent. -/
theorem clear (h : d.Coherent none) (queue : List DictionaryKey) :
    { d with
      sessions := {}
      waiting := []
      dictionaryQueue := queue
      generation := d.generation + 1 }.Coherent none := by
  refine ⟨orderly_of_empty rfl, h.pendingNumbers,
    fun request hr => Nat.le_succ_of_le (h.generations request hr), fun request _ _ => rfl,
    fun _ ho => (by cases ho), fun id _ => ⟨?_, rfl⟩⟩
  -- Every request that is outstanding is of an older generation now.
  refine List.countP_eq_zero.mpr fun request hr => ?_
  have := h.generations request hr
  have hne : request.generation ≠ d.generation + 1 := by omega
  simp [hne]

/-- A session without an outstanding request loses the one in the queue. -/
theorem withdraw (h : d.Coherent none) (hfree : d.outstandingOf id = 0) :
    { d with waiting := d.waiting.filter fun entry => entry.1 ≠ id }.Coherent (some id) := by
  refine ⟨h.of_sessions rfl (Nat.le_refl _), h.pendingNumbers, h.generations, h.stale, ?_, ?_⟩
  · rintro _ ⟨⟩
    refine ⟨hfree, ?_⟩
    rw [queuedOf_filter, if_pos rfl]
  · intro other hne
    refine (h.requests other (by simp)).congr rfl ?_
    rw [queuedOf_filter, if_neg (fun he => hne (congrArg some he.symm))]

/-- A session with an outstanding request may be marked as given up. -/
theorem mark (h : d.Coherent none) (hs : d.sessions.get? id = some s)
    (hone : d.outstandingOf id = 1) {state : SessionState} (ha : state.isAbandoned = true) :
    { d with
      waiting := d.waiting.filter fun entry => entry.1 ≠ id
      sessions := d.sessions.insert id { s with state } }.Coherent none := by
  have hget : ∀ other, (d.sessions.insert id { s with state }).get? other =
      if other = id then some { s with state } else d.sessions.get? other :=
    fun other => Table.get?_insert ..
  refine ⟨h.of_insert rfl (Nat.le_refl _) (Or.inr ha) (h.numbers id s hs), h.pendingNumbers,
    h.generations, ?_, fun _ ho => (by cases ho), ?_⟩
  · intro request hr hold
    have hgone := h.stale request hr hold
    show (d.sessions.insert id _).get? _ = none
    rw [hget, if_neg, hgone]
    intro he
    rw [he, hs] at hgone
    cases hgone
  · -- The marked session keeps its outstanding request, and the others keep theirs.
    intro other _
    have hq := queuedOf_filter d id other
    show HasRequests _ other ((d.sessions.insert id _).get? other)
    rw [hget]
    by_cases he : other = id
    · subst he
      rw [if_pos rfl] at hq
      rw [if_pos rfl]
      refine ⟨?_, fun _ => hq⟩
      show d.outstandingOf other + queuedOf { d with waiting := _ } other = 1
      rw [hone, hq]
    · rw [if_neg he] at hq
      rw [if_neg he]
      exact (h.requests other (by simp)).congr rfl hq

end Coherent

end DeviceEnablement.Device
