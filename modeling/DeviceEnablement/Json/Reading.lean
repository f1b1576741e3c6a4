/-
  From JSON text to JSON values.

  A tree that follows the grammar has a value unless it nests too deep, a string holds half of a
  surrogate pair, or a number is too large for a double.

  1. `text?` joins surrogate pairs.
  2. `Literal.number` keeps a literal as an integer where `Json.Number` says so.
  3. `isRepresentable` decides whether a literal stays below the largest double once it is rounded:
     its first digits, as many as fit in 64 bits, rounded to 53 bits, times the power of ten they
     are scaled by, itself rounded to 53 bits.
  4. `Raw.value? room` allows `room` nested arrays and objects.
-/
import DeviceEnablement.Json.Raw
import DeviceEnablement.Text.Double

namespace DeviceEnablement.Json

/-! ## Strings -/

/-- Whether a UTF-16 unit is the first half of a surrogate pair. -/
def isHighSurrogate (u : Nat) : Bool := 0xD800 ≤ u ∧ u < 0xDC00

/-- Whether a UTF-16 unit is the second half of a surrogate pair. -/
def isLowSurrogate (u : Nat) : Bool := 0xDC00 ≤ u ∧ u < 0xE000

/-- The characters that pieces stand for; a surrogate has to be half of a pair. -/
def chars? : List Piece → Option (List Char)
  | [] => some []
  | .char c :: rest => (chars? rest).map (c :: ·)
  | .unit high :: .unit low :: rest =>
    if isHighSurrogate high then
      if isLowSurrogate low then
        (chars? rest).map (Char.ofNat (0x10000 + 1024 * (high - 0xD800) + (low - 0xDC00)) :: ·)
      else none
    else if isLowSurrogate high then none
    else (chars? (.unit low :: rest)).map (Char.ofNat high :: ·)
  | .unit u :: rest =>
    if isHighSurrogate u ∨ isLowSurrogate u then none
    else (chars? rest).map (Char.ofNat u :: ·)

/-- The text that pieces stand for. -/
def text? (pieces : List Piece) : Option String := (chars? pieces).map String.ofList

/-! ## Numbers -/

/-- The number written by decimal digits. -/
def ofDigits (digits : List Char) : Nat :=
  digits.foldl (fun n c => 10 * n + (c.toNat - '0'.toNat)) 0

/-- The greatest significand that is kept exactly. -/
def maxSignificand : Nat := 18446744073709551615

/-- Takes digits into a significand as long as it fits in 64 bits; from the first digit that does
    not, the rest is only counted. -/
def takeDigits (significand : Nat) : List Char → Nat × Nat
  | [] => (significand, 0)
  | c :: rest =>
    let next := 10 * significand + (c.toNat - '0'.toNat)
    if next ≤ maxSignificand then takeDigits next rest else (significand, rest.length + 1)

/-- The significand of a literal and the power of ten it is scaled by. -/
def scaled (literal : Literal) : Nat × Int :=
  let (whole, dropped) := takeDigits 0 literal.whole
  let fraction := literal.fraction.getD []
  let (significand, unused) := takeDigits whole fraction
  let exponent : Int :=
    match literal.exponent with
    | some (true, digits) => -(ofDigits digits : Int)
    | some (false, digits) => ofDigits digits
    | none => 0
  (significand, (dropped : Int) - (fraction.length - unused : Nat) + exponent)

/-- Whether the double nearest to a literal is finite. -/
def isRepresentable (literal : Literal) : Bool :=
  let (significand, exponent) := scaled literal
  if significand = 0 ∨ exponent ≤ 0 then true
  else if exponent > 308 then false
  else Double.round significand * Double.round (Nat.pow 10 exponent.toNat) < Double.bound

/-- The text of a literal. -/
def Literal.text (literal : Literal) : String :=
  String.ofList
    ((if literal.negative then ['-'] else []) ++ literal.whole
      ++ (match literal.fraction with
          | some digits => '.' :: digits
          | none => [])
      ++ (match literal.exponent with
          | some (true, digits) => 'e' :: '-' :: digits
          | some (false, digits) => 'e' :: digits
          | none => []))

/-- The number that a literal stands for. -/
def Literal.number (literal : Literal) : Number :=
  if literal.fraction.isSome ∨ literal.exponent.isSome then .decimal literal.text
  else
    let n := ofDigits literal.whole
    if literal.negative then
      if n = 0 ∨ -(n : Int) < minSigned then .decimal literal.text else .integer (-n)
    else if (n : Int) ≤ maxUnsigned then .integer n
    else .decimal literal.text

/-! ## Values -/

namespace Raw

mutual

/-- The value of a tree that nests at most `room` arrays and objects. -/
def value (room : Nat) : Raw → Option Json
  | .null => some .null
  | .bool b => some (.bool b)
  | .number literal => if isRepresentable literal then some (.number literal.number) else none
  | .string pieces => (text? pieces).map .string
  | .array items =>
    match room with
    | 0 => none
    | room + 1 => (values room items).map .array
  | .object members =>
    match room with
    | 0 => none
    | room + 1 => (members? room members).map Json.ofMembers

/-- The values of the items of an array. -/
def values (room : Nat) : List Raw → Option (List Json)
  | [] => some []
  | item :: rest =>
    match value room item, values room rest with
    | some v, some vs => some (v :: vs)
    | _, _ => none

/-- The values of the members of an object. -/
def members? (room : Nat) : List (List Piece × Raw) → Option (List (String × Json))
  | [] => some []
  | (name, item) :: rest =>
    match text? name, value room item, members? room rest with
    | some n, some v, some vs => some ((n, v) :: vs)
    | _, _, _ => none

end

end Raw

/-- How many arrays and objects may be nested in each other. -/
def maxNesting : Nat := 127

/-- The value of a JSON text. -/
def ofText? (text : String) : Option Json :=
  match Raw.ofText? text with
  | some raw => raw.value maxNesting
  | none => none

end DeviceEnablement.Json
