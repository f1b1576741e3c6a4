/-
  How an operation begins.

  1. `Operation.on`: the operation for a request on the resource that the request is about.
     `Operation.opener`: its first request, which can always be written (`outgoing_opener`).
  2. `Operation.init_empty`, `init_whole`, `init_divided`, `init_cramped`: the body is all in the first
     request, or divided, or the device has no room for a divided one.
  3. `OperationRequest.Overflows`: whether the body has to be divided.
  4. `Operation.Begun`, `Operation.begun_start`: an operation begins with the whole body, or with a
     divided one, or not at all.
-/
import DeviceEnablement.Proofs.Session.Subject
import DeviceEnablement.Proofs.Wire.Request

namespace DeviceEnablement

/-- What a number of the wire counts is never too long for the wire. -/
theorem toNat_le_maxU32 (n : UInt32) : n.toNat ≤ maxU32 := Nat.le_of_lt_succ n.toNat_lt

/-! ## The first request -/

theorem OperationInitRequest.command_of_outgoing {r : OperationInitRequest} {out : Outgoing}
    (h : r.outgoing = .ok out) : out.command = .operationInit := by
  unfold outgoing at h
  cases hencode : r.encode with
  | error e =>
    rw [hencode] at h
    cases h
  | ok body =>
    rw [hencode] at h
    cases h
    rfl

namespace Operation

variable {o : Operation} {scope : SessionScope} {memory : DeviceMemory} {payload : Bytes}
  {metadata : Metadata} {limit : UInt32}

/-- The operation for a request on this resource. -/
def on (request : OperationRequest) (operationId : UInt16) (resource : Resource) : Operation :=
  { request, operationId, resourceId := resource.resourceId, schemaClass := resource.schemaClass }

/-- The first request of an operation, with this much of the body. -/
def opener (o : Operation) (flags : OperationFlags) (handle : UInt32) (inlined : Bytes) :
    OperationInitRequest :=
  { resourceId := o.resourceId, operationId := o.operationId, operation := o.request.operation,
    flags, sendHandle := handle, locator := [], payload := inlined }

theorem initRequest_eq (o : Operation) (flags : OperationFlags) (handle : UInt32)
    (inlined : Bytes) :
    o.initRequest flags handle inlined = (o.opener flags handle inlined).outgoing.mapError .message :=
  rfl

/-- The first request can be written when what it carries of the body fits in a chunk. -/
theorem outgoing_opener (o : Operation) (flags : OperationFlags) (handle : UInt32)
    {inlined : Bytes} (hsize : inlined.length ≤ maxU32) :
    ∃ out, (o.opener flags handle inlined).outgoing = .ok out ∧ out.command = .operationInit ∧
      out.body.length = OperationInitRequest.fixedSize + inlined.length := by
  have hencode := OperationInitRequest.encode_ok_iff (r := o.opener flags handle inlined).mpr
    ⟨⟨Nat.zero_le _, hsize⟩, rfl⟩
  refine ⟨⟨.operationInit, _⟩, ?_, rfl, OperationInitRequest.length_encode hencode⟩
  unfold OperationInitRequest.outgoing
  rw [hencode]
  rfl

/-- The flags of an operation whose request has a body. -/
def bodyFlags : OperationFlags := OperationFlags.empty.withRequestPayload

/-- The operation that keeps what does not fit in a first request of `limit` bytes. -/
def divided (o : Operation) (limit : Nat) (payload : Bytes) : Operation :=
  { o with
    remainder := some (payload.drop (limit - OperationInitRequest.fixedSize))
    sendChunk := limit - (MultipartSendRequest.fixedSize + checksumSize) }

theorem init_empty (o : Operation) (metadata : Metadata) :
    o.init metadata [] = (o.initRequest .empty 0 [], o) := rfl

theorem init_whole (hpayload : payload ≠ []) (hlimit : metadata.deviceMaxChunk = some limit)
    (hfits : OperationInitRequest.fixedSize + payload.length ≤ limit.toNat) :
    o.init metadata payload = (o.initRequest bodyFlags 0 payload, o) := by
  have hbody : ¬ payload.isEmpty = true := fun h => hpayload (List.isEmpty_iff.mp h)
  unfold init
  rw [if_neg hbody, hlimit]
  dsimp only [Metadata.require]
  rw [if_neg (Nat.not_lt.mpr hfits)]
  rfl

theorem init_unknown (hpayload : payload ≠ []) (hlimit : metadata.deviceMaxChunk = none) :
    o.init metadata payload = (.error (.model (.missingMetadata .deviceMaxChunk)), o) := by
  have hbody : ¬ payload.isEmpty = true := fun h => hpayload (List.isEmpty_iff.mp h)
  unfold init
  rw [if_neg hbody, hlimit]
  rfl

/-- A device that takes no byte of a body in a further request is asked nothing. -/
theorem init_cramped (hpayload : payload ≠ []) (hlimit : metadata.deviceMaxChunk = some limit)
    (hover : limit.toNat < OperationInitRequest.fixedSize + payload.length)
    (hroom : limit.toNat ≤ MultipartSendRequest.fixedSize + checksumSize) :
    o.init metadata payload =
      (.error (.transfer s!"device chunk size {limit.toNat} too small for a multipart request"), o)
      := by
  have hbody : ¬ payload.isEmpty = true := fun h => hpayload (List.isEmpty_iff.mp h)
  unfold init
  rw [if_neg hbody, hlimit]
  dsimp only [Metadata.require]
  rw [if_pos hover]
  unfold chunkSize
  dsimp only
  rw [if_neg (Nat.not_lt.mpr hroom)]

theorem init_divided (hpayload : payload ≠ []) (hlimit : metadata.deviceMaxChunk = some limit)
    (hover : limit.toNat < OperationInitRequest.fixedSize + payload.length)
    (hroom : MultipartSendRequest.fixedSize + checksumSize < limit.toNat) :
    o.init metadata payload =
      (o.initRequest bodyFlags sendHandle
        (payload.take (limit.toNat - OperationInitRequest.fixedSize)),
        o.divided limit.toNat payload) := by
  have hbody : ¬ payload.isEmpty = true := fun h => hpayload (List.isEmpty_iff.mp h)
  unfold init
  rw [if_neg hbody, hlimit]
  dsimp only [Metadata.require]
  rw [if_pos hover]
  unfold chunkSize
  dsimp only
  rw [if_pos hroom]
  rfl

/-! ## Beginning -/

section Beginning

variable {request : OperationRequest} {operationId : UInt16} {resource : Resource}

/-- An operation that finds its resource and its body begins with the body. -/
theorem start_eq (hfound : scope.registry.getByUri request.uri = .ok resource)
    (hprepared : (on request operationId resource).prepare scope memory.store = .ok payload) :
    ({ request, operationId } : Operation).start scope memory =
      match (on request operationId resource).init memory.metadata payload with
      | (.ok out, o) => (.ok (.send out), { o with phase := .starting }, memory)
      | (.error e, o) => (.error e, o, memory) := by
  unfold on at hprepared
  unfold start
  dsimp only
  rw [hfound]
  dsimp only
  rw [hprepared]
  rfl

theorem start_unprepared {e : Failure} (hfound : scope.registry.getByUri request.uri = .ok resource)
    (hprepared : (on request operationId resource).prepare scope memory.store = .error e) :
    ({ request, operationId } : Operation).start scope memory =
      (.error e, on request operationId resource, memory) := by
  unfold on at hprepared
  unfold start
  dsimp only
  rw [hfound]
  dsimp only
  rw [hprepared]
  rfl

end Beginning

end Operation

namespace OperationRequest

variable {request : OperationRequest} {operationId : UInt16} {scope : SessionScope}
  {memory : DeviceMemory} {resource : Resource} {payload : Bytes}

/-- Whether the body of a request is too long for the first request to its device. -/
def Overflows (request : OperationRequest) (operationId : UInt16) (scope : SessionScope)
    (memory : DeviceMemory) : Prop :=
  ∃ resource payload limit, scope.registry.getByUri request.uri = .ok resource ∧
    (Operation.on request operationId resource).prepare scope memory.store = .ok payload ∧
    memory.metadata.deviceMaxChunk = some limit ∧ payload ≠ [] ∧
    limit.toNat < OperationInitRequest.fixedSize + payload.length

/-- The resource and the body of a request are the only ones. -/
theorem overflows_iff (hfound : scope.registry.getByUri request.uri = .ok resource)
    (hprepared :
      (Operation.on request operationId resource).prepare scope memory.store = .ok payload) :
    request.Overflows operationId scope memory ↔
      ∃ limit, memory.metadata.deviceMaxChunk = some limit ∧ payload ≠ [] ∧
        limit.toNat < OperationInitRequest.fixedSize + payload.length := by
  constructor
  · rintro ⟨resource', payload', limit, hfound', hprepared', hlimit, hbody, hover⟩
    rw [hfound, Except.ok.injEq] at hfound'
    subst hfound'
    rw [hprepared, Except.ok.injEq] at hprepared'
    subst hprepared'
    exact ⟨limit, hlimit, hbody, hover⟩
  · rintro ⟨limit, hlimit, hbody, hover⟩
    exact ⟨resource, payload, limit, hfound, hprepared, hlimit, hbody, hover⟩

end OperationRequest

namespace Operation

variable {scope : SessionScope} {memory : DeviceMemory} {request : OperationRequest}
  {operationId : UInt16} {resource : Resource} {payload : Bytes}

/-- How an operation begins: with the whole body in its first request, with a divided body, or not
    at all. -/
inductive Begun (request : OperationRequest) (operationId : UInt16) (scope : SessionScope)
    (memory : DeviceMemory) : TaskResult Operation → Prop
  | refused (e : Failure) {o : Operation} (empty : o.response = []) :
      Begun request operationId scope memory (.error e, o, memory)
  | whole {resource : Resource} {flags : OperationFlags} {inlined : Bytes} {out : Outgoing}
      (found : scope.registry.getByUri request.uri = .ok resource)
      (fits : ¬ request.Overflows operationId scope memory)
      (written : ((on request operationId resource).opener flags 0 inlined).outgoing = .ok out) :
      Begun request operationId scope memory
        (.ok (.send out), on request operationId resource, memory)
  | divided {resource : Resource} {limit : Nat} {inlined payload : Bytes} {out : Outgoing}
      (found : scope.registry.getByUri request.uri = .ok resource)
      (overflows : request.Overflows operationId scope memory)
      (written : ((on request operationId resource).opener bodyFlags sendHandle inlined).outgoing =
        .ok out) :
      Begun request operationId scope memory
        (.ok (.send out), (on request operationId resource).divided limit payload, memory)

/-- A first request that carries the whole body is sent. -/
theorem begun_whole {flags : OperationFlags} {inlined : Bytes}
    (hfound : scope.registry.getByUri request.uri = .ok resource)
    (hprepared : (on request operationId resource).prepare scope memory.store = .ok payload)
    (hinit : (on request operationId resource).init memory.metadata payload =
      ((on request operationId resource).initRequest flags 0 inlined,
        on request operationId resource))
    (hsize : inlined.length ≤ maxU32) (hfits : ¬ request.Overflows operationId scope memory) :
    Begun request operationId scope memory
      (({ request, operationId } : Operation).start scope memory) := by
  obtain ⟨out, hout, -, -⟩ := (on request operationId resource).outgoing_opener flags 0 hsize
  rw [start_eq hfound hprepared, hinit, initRequest_eq, hout]
  exact .whole hfound hfits hout

/-- A body is sent whole, or divided, or not at all. -/
theorem begun_of_prepared (hfound : scope.registry.getByUri request.uri = .ok resource)
    (hprepared : (on request operationId resource).prepare scope memory.store = .ok payload) :
    Begun request operationId scope memory
      (({ request, operationId } : Operation).start scope memory) := by
  have hoverflows := OperationRequest.overflows_iff hfound hprepared
  by_cases hbody : payload = []
  · subst hbody
    refine begun_whole hfound hprepared (init_empty _ _) (Nat.zero_le _) fun h => ?_
    obtain ⟨_, _, hbody, _⟩ := hoverflows.mp h
    exact hbody rfl
  cases hlimit : memory.metadata.deviceMaxChunk with
  | none =>
    rw [start_eq hfound hprepared, init_unknown hbody hlimit]
    exact .refused _ rfl
  | some limit =>
    have hmax : limit.toNat ≤ maxU32 := toNat_le_maxU32 limit
    by_cases hfits : OperationInitRequest.fixedSize + payload.length ≤ limit.toNat
    · refine begun_whole hfound hprepared (init_whole hbody hlimit hfits) (by omega) fun h => ?_
      obtain ⟨limit', hlimit', -, hover⟩ := hoverflows.mp h
      rw [hlimit, Option.some.injEq] at hlimit'
      subst hlimit'
      exact absurd hfits (Nat.not_le.mpr hover)
    have hover := Nat.not_le.mp hfits
    -- There is room for chunks, or the operation is refused.
    by_cases hroom : MultipartSendRequest.fixedSize + checksumSize < limit.toNat
    · have hinlined :
          (payload.take (limit.toNat - OperationInitRequest.fixedSize)).length ≤ maxU32 := by
        rw [List.length_take]
        omega
      obtain ⟨out, hout, -, -⟩ :=
        (on request operationId resource).outgoing_opener bodyFlags sendHandle hinlined
      rw [start_eq hfound hprepared, init_divided hbody hlimit hover hroom, initRequest_eq, hout]
      exact .divided hfound (hoverflows.mpr ⟨limit, hlimit, hbody, hover⟩) hout
    · rw [start_eq hfound hprepared, init_cramped hbody hlimit hover (Nat.not_lt.mp hroom)]
      exact .refused _ rfl

theorem begun_start (request : OperationRequest) (operationId : UInt16) (scope : SessionScope)
    (memory : DeviceMemory) :
    Begun request operationId scope memory
      (({ request, operationId } : Operation).start scope memory) := by
  cases hfound : scope.registry.getByUri request.uri with
  | error e =>
    unfold start
    dsimp only
    rw [hfound]
    exact .refused _ rfl
  | ok resource =>
    cases hprepared : (on request operationId resource).prepare scope memory.store with
    | error e =>
      rw [start_unprepared hfound hprepared]
      exact .refused e rfl
    | ok payload => exact begun_of_prepared hfound hprepared

end Operation

end DeviceEnablement
