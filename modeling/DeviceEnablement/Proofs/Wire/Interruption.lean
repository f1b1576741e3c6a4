/-
  Responses that break off.

  A transport may deliver less of a response than the device has sent.  The lengths in a response stand
  in front of what they count, so the reader notices: it asks for more bytes than there are, and looks at
  no text, no flag and no length that is not all there.

  1. `SelfDelimiting`: a body tells on its own where it ends.
  2. `Reader.Consumes.selfDelimiting`: what a reader consumes is such a body.
  3. `broken_response_refused`: so are all responses that have a written form.
-/
import DeviceEnablement.Proofs.Wire.Framing

namespace DeviceEnablement

/-- Whether a body tells on its own where it ends: it is read with anything behind it, and of any shorter
    part of it nothing is read but that bytes are missing. -/
structure SelfDelimiting {α : Type} (decode : Bytes → Except MessageError α) (body : Bytes) :
    Prop where
  read_append : ∃ value, ∀ rest, decode (body ++ rest) = .ok value
  truncated : ∀ part, part <+: body → part ≠ body →
    ∃ needed remaining, decode part = .error (.truncated needed remaining) ∧ remaining < needed

theorem Reader.Consumes.selfDelimiting {α : Type} {read : Reader α} {value : α} {body : Bytes}
    (h : Consumes read value body) : SelfDelimiting read.run body where
  read_append := ⟨value, h.run_append⟩
  truncated part hpart hcut := (h.runsOut part hpart hcut).run

/-- Wherever a response breaks off that a device has written, it is refused because its bytes have come
to an end, and never taken for a shorter response.  This holds of all that can be written: of a text with
a NUL, of which not all is read back, and of a status under a byte that is read as another one. -/
theorem broken_response_refused (n : NegotiateRedfishResponse) (o : OperationInitResponse)
    (m : MultipartReceiveResponse) (hpayload : o.payload.length < UInt32.size)
    (hsize : m.data.length + (trailerBytes m.checksum).length < UInt32.size) :
    (∀ body, n.encode = .ok body → SelfDelimiting NegotiateRedfishResponse.decode body) ∧
    (∀ body, o.encode = .ok body → SelfDelimiting OperationInitResponse.decode body) ∧
    ∀ body, m.encode = .ok body → SelfDelimiting MultipartReceiveResponse.decode body := by
  constructor
  · intro body hencode
    exact (NegotiateRedfishResponse.consumes hencode).selfDelimiting
  constructor
  · intro body hencode
    exact (OperationInitResponse.consumes_written hpayload hencode).selfDelimiting
  · intro body hencode
    exact (MultipartReceiveResponse.consumes hsize hencode).selfDelimiting

/-- A result whose status is written as the byte of another one. -/
def strayResult : OperationInitResponse := { taggedResult with status := .unknown 5 }

/-- A name that breaks off in front of its length, a tag that breaks off within a character and a last
chunk that breaks off within its check are refused for the bytes that are missing. -/
theorem broken_response_refused_midway :
    splitName.encode = .ok splitNameBytes ∧
      (∃ needed remaining, NegotiateRedfishResponse.decode (splitNameBytes.take 10) =
        .error (.truncated needed remaining) ∧ remaining < needed) ∧
      strayResult.encode = .ok taggedBytes ∧
      (∃ needed remaining, OperationInitResponse.decode (taggedBytes.take 20) =
        .error (.truncated needed remaining) ∧ remaining < needed) ∧
      MultipartReceiveResponse.lastChunk.encode = .ok MultipartReceiveResponse.lastChunkBytes ∧
      ∃ needed remaining, MultipartReceiveResponse.decode
        (MultipartReceiveResponse.lastChunkBytes.take 15) = .error (.truncated needed remaining) ∧
          remaining < needed :=
  have hname : splitName.encode = .ok splitNameBytes := rfl
  have hresult : strayResult.encode = .ok taggedBytes := rfl
  have hchunk : MultipartReceiveResponse.lastChunk.encode =
      .ok MultipartReceiveResponse.lastChunkBytes := rfl
  have hbroken := broken_response_refused splitName strayResult MultipartReceiveResponse.lastChunk
    (by decide) (by decide)
  ⟨hname, (hbroken.1 _ hname).truncated _ (List.take_prefix 10 _) (by decide),
    hresult, (hbroken.2.1 _ hresult).truncated _ (List.take_prefix 20 _) (by decide),
    hchunk, (hbroken.2.2 _ hchunk).truncated _ (List.take_prefix 15 _) (by decide)⟩

end DeviceEnablement
