/-
  Readers whose bytes come to an end too early.

  What is written in a format with lengths in front is never the beginning of something else that can
  be read.  So a reader that is given only a part of it runs out of bytes (`Reader.RunsOut`), whatever
  the part breaks off in.

  1. `Reader.Consumes`: a reader gives a value back behind which anything may follow, and runs out of
     bytes on every shorter part of what was written.
  2. `consumes_u8`, `consumes_u16`, `consumes_u32`, `consumes_take`: the primitives.
  3. `Consumes.bind`: one reader behind the other.  A part breaks off in what the first one takes, or
     behind it.
  4. `consumes_manyOnto`: elements one behind the other.
-/
import DeviceEnablement.Proofs.Wire.Format

namespace DeviceEnablement.Reader

variable {α β : Type}

/-! ## Running out -/

/-- Whether a reader fails on these bytes because fewer are left than it needs. -/
def RunsOut (read : Reader α) (bytes : Bytes) : Prop :=
  ∃ needed remaining rest, read bytes = (.error (.truncated needed remaining), rest) ∧
    remaining < needed

/-- Whether a reader takes `written` for `value`: it gives the value back whatever follows, and runs
    out of bytes on anything shorter that begins like `written`. -/
structure Consumes (read : Reader α) (value : α) (written : Bytes) : Prop where
  read_append : ∀ rest, read (written ++ rest) = (.ok value, rest)
  runsOut : ∀ part, part <+: written → part ≠ written → read.RunsOut part

/-- A whole buffer that is cut short cannot be read. -/
theorem RunsOut.run {read : Reader α} {bytes : Bytes} (h : read.RunsOut bytes) :
    ∃ needed remaining, read.run bytes = .error (.truncated needed remaining) ∧
      remaining < needed := by
  obtain ⟨needed, remaining, rest, hread, hfew⟩ := h
  exact ⟨needed, remaining, congrArg Prod.fst hread, hfew⟩

/-- When the first reader runs out, there is nothing for the next one. -/
theorem RunsOut.bind {first : Reader α} {bytes : Bytes} (h : first.RunsOut bytes)
    (next : α → Reader β) : (first >>= next).RunsOut bytes := by
  obtain ⟨needed, remaining, rest, hread, hfew⟩ := h
  exact ⟨needed, remaining, rest, bind_error hread, hfew⟩

/-- The next reader runs out on what the first one leaves. -/
theorem RunsOut.after {first : Reader α} {next : α → Reader β} {bytes rest : Bytes} {a : α}
    (hfirst : first bytes = (.ok a, rest)) (h : (next a).RunsOut rest) :
    (first >>= next).RunsOut bytes := by
  obtain ⟨needed, remaining, rest, hread, hfew⟩ := h
  exact ⟨needed, remaining, rest, (bind_ok hfirst).trans hread, hfew⟩

/-! ## Primitives -/

theorem length_lt_of_part {part written : Bytes} (hpart : part <+: written)
    (hcut : part ≠ written) : part.length < written.length :=
  Nat.lt_of_le_of_ne hpart.length_le fun hlength => hcut (hpart.eq_of_length hlength)

/-- What takes nothing cannot be cut short. -/
theorem consumes_nothing {read : Reader α} {value : α}
    (h : ∀ rest, read rest = (.ok value, rest)) : Consumes read value [] where
  read_append := h
  runsOut _ hpart hcut := absurd (List.prefix_nil.mp hpart) hcut

theorem consumes_pure (value : α) : Consumes (pure value) value [] :=
  consumes_nothing fun _ => rfl

theorem consumes_take (head : Bytes) : Consumes (take head.length) head head where
  read_append rest := take_append head rest
  runsOut _ hpart hcut :=
    have hshort := length_lt_of_part hpart hcut
    ⟨_, _, _, take_of_lt hshort, hshort⟩

theorem consumes_u8 (b : UInt8) : Consumes u8 b [b] where
  read_append rest := u8_cons b rest
  runsOut part hpart hcut := by
    have hshort : part.length < 1 := length_lt_of_part hpart hcut
    obtain rfl : part = [] := List.eq_nil_of_length_eq_zero (by omega)
    exact ⟨1, 0, [], rfl, hshort⟩

theorem consumes_u16 (w : UInt16) : Consumes u16 w (Bytes.ofU16 w) where
  read_append rest := u16_append w rest
  runsOut part hpart hcut := by
    have hshort : part.length < 2 := length_lt_of_part hpart hcut
    refine ⟨2, part.length, part, ?_, hshort⟩
    rcases part with _ | ⟨a, _ | ⟨b, tail⟩⟩
    · rfl
    · rfl
    · simp only [List.length_cons] at hshort
      omega

theorem consumes_u32 (w : UInt32) : Consumes u32 w (Bytes.ofU32 w) where
  read_append rest := u32_append w rest
  runsOut part hpart hcut := by
    have hshort : part.length < 4 := length_lt_of_part hpart hcut
    refine ⟨4, part.length, part, ?_, hshort⟩
    rcases part with _ | ⟨a, _ | ⟨b, _ | ⟨c, _ | ⟨d, tail⟩⟩⟩⟩
    · rfl
    · rfl
    · rfl
    · rfl
    · simp only [List.length_cons] at hshort
      omega

/-! ## Sequences -/

/-- A shorter part of two pieces breaks off in the first one, or contains it and breaks off in the
    second one. -/
theorem part_of_append {part w w' : Bytes} (hpart : part <+: w ++ w') (hcut : part ≠ w ++ w') :
    (part <+: w ∧ part ≠ w) ∨ ∃ part', part = w ++ part' ∧ part' <+: w' ∧ part' ≠ w' := by
  rcases Nat.lt_or_ge part.length w.length with hshort | hlong
  · refine Or.inl ⟨?_, fun heq => ?_⟩
    · exact List.prefix_of_prefix_length_le hpart (List.prefix_append w w') (Nat.le_of_lt hshort)
    · rw [heq] at hshort
      exact Nat.lt_irrefl _ hshort
  · obtain ⟨part', rfl⟩ := List.prefix_of_prefix_length_le (List.prefix_append w w') hpart hlong
    refine Or.inr ⟨part', rfl, (List.prefix_append_right_inj w).mp hpart, fun heq => ?_⟩
    exact hcut (congrArg (w ++ ·) heq)

theorem Consumes.bind {first : Reader α} {next : α → Reader β} {a : α} {value : β} {w w' : Bytes}
    (h : Consumes first a w) (h' : Consumes (next a) value w') :
    Consumes (first >>= next) value (w ++ w') where
  read_append rest := by
    rw [List.append_assoc, bind_ok (h.read_append _)]
    exact h'.read_append rest
  runsOut part hpart hcut := by
    rcases part_of_append hpart hcut with ⟨hfirst, hbroken⟩ | ⟨part', rfl, hsecond, hbroken⟩
    · exact (h.runsOut part hfirst hbroken).bind next
    · exact .after (h.read_append part') (h'.runsOut part' hsecond hbroken)

/-- What is done with a value that was read, without reading any further, has no effect on what is
    consumed. -/
theorem Consumes.followedBy {first : Reader α} {next : α → Reader β} {a : α} {value : β} {w : Bytes}
    (h : Consumes first a w) (hnext : ∀ rest, next a rest = (.ok value, rest)) :
    Consumes (first >>= next) value w := by
  have hbound := h.bind (consumes_nothing hnext)
  rwa [List.append_nil] at hbound

theorem Consumes.map {read : Reader α} {a : α} {w : Bytes} (h : Consumes read a w) (f : α → β) :
    Consumes (read >>= fun a => pure (f a)) (f a) w :=
  h.followedBy fun _ => rfl

theorem manyOnto_succ (read : Reader α) (before : List α) (count : Nat) :
    manyOnto read before (count + 1) = read >>= fun value => manyOnto read (value :: before) count :=
  rfl

/-- Elements that were written one behind the other are consumed in order. -/
theorem consumes_manyOnto {read : Reader α} {encode : α → Except MessageError Bytes}
    (h : ∀ {value bytes}, encode value = .ok bytes → Consumes read value bytes) {acc : List Bytes}
    {values : List α} {bytes : Bytes}
    (hencode : ResourceRecord.encodeAllOnto encode acc values = .ok bytes) :
    ∃ body, bytes = acc.reverse.flatten ++ body ∧
      ∀ before, Consumes (manyOnto read before values.length) (before.reverse ++ values) body := by
  induction values generalizing acc with
  | nil =>
    cases hencode
    refine ⟨[], (List.append_nil _).symm, fun before => ?_⟩
    rw [List.append_nil]
    exact consumes_pure before.reverse
  | cons value values ih =>
    unfold ResourceRecord.encodeAllOnto at hencode
    split at hencode
    · rename_i piece hpiece
      obtain ⟨body, rfl, hbody⟩ := ih hencode
      refine ⟨piece ++ body, ?_, fun before => ?_⟩
      · rw [List.reverse_cons, List.flatten_append, List.flatten_singleton, List.append_assoc]
      · have hrest := hbody (value :: before)
        rw [List.reverse_cons, List.append_assoc, List.singleton_append] at hrest
        rw [List.length_cons, manyOnto_succ]
        exact (h hpiece).bind hrest
    · cases hencode

end DeviceEnablement.Reader
