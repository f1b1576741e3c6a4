/-
  A bounds-checked reader of byte strings.

  A `Reader α` takes the bytes it needs off the front of a buffer.  It either yields a value or an
  error, and in both cases hands back the bytes that are left; a primitive that fails leaves the
  buffer as it was.

  1. `take`, `u8`, `u16`, `u32` each need a fixed number of bytes and fail with `truncated` when
     fewer are left (`take_of_lt`).
  2. Each of them, run on its own bytes followed by anything, yields its value and leaves the rest
     (`take_append`, `u16_append`, `u32_append`).
  3. `many` repeats a reader a given number of times.
-/
import DeviceEnablement.Message.Error

namespace DeviceEnablement

/-- Reads a value off the front of a buffer, or says why it cannot; hands back what is left. -/
def Reader (α : Type) : Type := Bytes → Except MessageError α × Bytes

namespace Reader

variable {α β : Type}

/-- The reader that needs no bytes. -/
@[inline] protected def pure (value : α) : Reader α := fun bytes => (.ok value, bytes)

/-- Runs one reader and then, if it succeeds, the next one on what it leaves. -/
@[inline] protected def bind (first : Reader α) (next : α → Reader β) : Reader β := fun bytes =>
  match first bytes with
  | (.ok value, rest) => next value rest
  | (.error e, rest) => (.error e, rest)

instance : Monad Reader where
  pure := Reader.pure
  bind := Reader.bind

/-- Fails without taking anything. -/
def fail (e : MessageError) : Reader α := fun bytes => (.error e, bytes)

/-- The result of a check that takes nothing. -/
def ofExcept (result : Except MessageError α) : Reader α := fun bytes => (result, bytes)

/-- The value read from a whole buffer, whatever is left over. -/
def run (reader : Reader α) (bytes : Bytes) : Except MessageError α := (reader bytes).1

/-! ## Primitives -/

/-- The next `count` bytes. -/
def take (count : Nat) : Reader Bytes := fun bytes =>
  let head := bytes.take count
  if head.length = count then (.ok head, bytes.drop count)
  else (.error (.truncated count bytes.length), bytes)

/-- The next byte. -/
def u8 : Reader UInt8
  | a :: rest => (.ok a, rest)
  | bytes => (.error (.truncated 1 bytes.length), bytes)

/-- The next two bytes as a word. -/
def u16 : Reader UInt16
  | a :: b :: rest => (.ok (Bytes.toU16 a b), rest)
  | bytes => (.error (.truncated 2 bytes.length), bytes)

/-- The next four bytes as a word. -/
def u32 : Reader UInt32
  | a :: b :: c :: d :: rest => (.ok (Bytes.toU32 a b c d), rest)
  | bytes => (.error (.truncated 4 bytes.length), bytes)

/-- Passes over `count` bytes. -/
def skip (count : Nat) : Reader Unit := do
  let _ ← take count
  return ()

/-- Everything that is left. -/
def rest : Reader Bytes := fun bytes => (.ok bytes, [])

/-- Runs `reader` `count` times onto `acc`, which holds the values read so far in reverse. -/
def manyOnto (reader : Reader α) (acc : List α) : Nat → Reader (List α)
  | 0 => fun bytes => (.ok acc.reverse, bytes)
  | count + 1 => fun bytes =>
    match reader bytes with
    | (.ok value, rest) => manyOnto reader (value :: acc) count rest
    | (.error e, rest) => (.error e, rest)

/-- Runs `reader` `count` times and lists the values in order. -/
def many (reader : Reader α) (count : Nat) : Reader (List α) := manyOnto reader [] count

/-! ## What the primitives do -/

theorem bind_ok {first : Reader α} {next : α → Reader β} {bytes rest : Bytes} {value : α}
    (h : first bytes = (.ok value, rest)) : (first >>= next) bytes = next value rest := by
  simp only [bind, Reader.bind, h]

theorem bind_error {first : Reader α} {next : α → Reader β} {bytes rest : Bytes}
    {e : MessageError} (h : first bytes = (.error e, rest)) :
    (first >>= next) bytes = (.error e, rest) := by
  simp only [bind, Reader.bind, h]

theorem take_append (head rest : Bytes) :
    take head.length (head ++ rest) = (.ok head, rest) := by
  simp [take]

theorem take_of_lt {count : Nat} {bytes : Bytes} (h : bytes.length < count) :
    take count bytes = (.error (.truncated count bytes.length), bytes) := by
  simp only [take, List.length_take]
  rw [if_neg (by omega)]

theorem u16_append (w : UInt16) (rest : Bytes) :
    u16 (Bytes.ofU16 w ++ rest) = (.ok w, rest) := by
  show (Except.ok (Bytes.toU16 _ _), rest) = _
  rw [Bytes.toU16_ofU16]

theorem u32_append (w : UInt32) (rest : Bytes) :
    u32 (Bytes.ofU32 w ++ rest) = (.ok w, rest) := by
  show (Except.ok (Bytes.toU32 _ _ _ _), rest) = _
  rw [Bytes.toU32_ofU32]

end Reader

end DeviceEnablement
