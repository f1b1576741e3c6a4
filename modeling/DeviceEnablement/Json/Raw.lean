/-
  The grammar of JSON text.

  `Raw.ofText?` reads a whole text into a tree that keeps what the text says: members in the order
  they are written, repeated names included, number literals digit by digit, and strings as the
  pieces between their quotes.  What a tree means is decided later, and only for the parts that are
  used: an unused part has to follow the grammar, but may be nested deeper, hold a larger number or
  name a lone surrogate.

  1. Blanks are space, tab, line feed and carriage return.
  2. A number has no leading zero, and digits on both sides of its point and after its exponent.
  3. A string holds no character below U+0020; its escapes are the single letters and `u` with four
     hexadecimal digits.

  The reader calls itself on what follows an opening bracket, a comma or a colon.  Each call takes
  one unit of fuel; a text has fewer of those than characters, so its length is fuel enough.
-/
import DeviceEnablement.Json.Basic
import DeviceEnablement.Text.Hexadecimal

namespace DeviceEnablement.Json

/-! ## Trees -/

/-- A number as it is written. -/
structure Literal where
  negative : Bool
  /-- The digits before the point. -/
  whole : List Char
  /-- The digits after the point, if there is one. -/
  fraction : Option (List Char)
  /-- The sign of the exponent (`true` for minus) and its digits, if there is one. -/
  exponent : Option (Bool × List Char)
  deriving DecidableEq

/-- A part of a string as it is written. -/
inductive Piece
  | char (c : Char)
  /-- An escaped UTF-16 unit, which may be half of a surrogate pair. -/
  | unit (value : Nat)
  deriving DecidableEq

/-- A JSON text that follows the grammar. -/
inductive Raw
  | null
  | bool (value : Bool)
  | number (literal : Literal)
  | string (pieces : List Piece)
  | array (items : List Raw)
  | object (members : List (List Piece × Raw))

namespace Raw

/-! ## Characters -/

/-- Whether a character may stand between two tokens. -/
def isBlank (c : Char) : Bool := c = ' ' ∨ c = '\t' ∨ c = '\n' ∨ c = '\r'

/-- Whether a character is a decimal digit. -/
def isDigit (c : Char) : Bool := '0' ≤ c ∧ c ≤ '9'

/-- A text without the blanks at its front. -/
def skipBlanks (text : List Char) : List Char := text.dropWhile isBlank

/-! ## Numbers -/

/-- The digits at the front of a text, at least one, and what follows them. -/
def digits? (text : List Char) : Option (List Char × List Char) :=
  match text.takeWhile isDigit with
  | [] => none
  | digits => some (digits, text.dropWhile isDigit)

/-- The part of a number before the point: one digit, or several of which the first is not zero. -/
def whole? (text : List Char) : Option (List Char × List Char) :=
  match digits? text with
  | some ('0' :: _ :: _, _) => none
  | result => result

/-- The part of a number from the point on, if there is a point. -/
def fraction? : List Char → Option (Option (List Char) × List Char)
  | '.' :: text => (digits? text).map fun (digits, rest) => (some digits, rest)
  | text => some (none, text)

/-- The exponent of a number, if there is one. -/
def exponent? : List Char → Option (Option (Bool × List Char) × List Char)
  | c :: text =>
    if c = 'e' ∨ c = 'E' then
      let (negative, text) :=
        match text with
        | '+' :: text => (false, text)
        | '-' :: text => (true, text)
        | text => (false, text)
      (digits? text).map fun (digits, rest) => (some (negative, digits), rest)
    else some (none, c :: text)
  | [] => some (none, [])

/-- The number at the front of a text. -/
def literal? (text : List Char) : Option (Literal × List Char) := do
  let (negative, text) :=
    match text with
    | '-' :: text => (true, text)
    | text => (false, text)
  let (whole, text) ← whole? text
  let (fraction, text) ← fraction? text
  let (exponent, text) ← exponent? text
  return ({ negative, whole, fraction, exponent }, text)

/-! ## Strings -/

/-- The value of four hexadecimal digits. -/
def unit? (a b c d : Char) : Option Nat := do
  let a ← Hexadecimal.digit? a
  let b ← Hexadecimal.digit? b
  let c ← Hexadecimal.digit? c
  let d ← Hexadecimal.digit? d
  return 4096 * a + 256 * b + 16 * c + d

/-- The character named by the letter after a backslash. -/
def escape? : Char → Option Char
  | '"' => some '"'
  | '\\' => some '\\'
  | '/' => some '/'
  | 'b' => some '\x08'
  | 'f' => some '\x0c'
  | 'n' => some '\n'
  | 'r' => some '\r'
  | 't' => some '\t'
  | _ => none

/-- Reads up to the closing quote onto `acc`, which holds the pieces read so far in reverse. -/
def piecesOnto (acc : List Piece) : List Char → Option (List Piece × List Char)
  | '"' :: rest => some (acc.reverse, rest)
  | '\\' :: 'u' :: a :: b :: c :: d :: rest =>
    match unit? a b c d with
    | some value => piecesOnto (.unit value :: acc) rest
    | none => none
  | '\\' :: c :: rest =>
    match escape? c with
    | some c => piecesOnto (.char c :: acc) rest
    | none => none
  | c :: rest => if c < ' ' then none else piecesOnto (.char c :: acc) rest
  | [] => none

/-! ## Values -/

/-- The text after `word`, if it begins with it. -/
def word? (word : String) (text : List Char) : Option (List Char) :=
  if word.toList.isPrefixOf text then some (text.drop word.length) else none

mutual

/-- The value at the front of a text that does not begin with a blank. -/
def value? : Nat → List Char → Option (Raw × List Char)
  | 0, _ => none
  | fuel + 1, text =>
    match text with
    | '"' :: text => (piecesOnto [] text).map fun (pieces, rest) => (.string pieces, rest)
    | '[' :: text =>
      match skipBlanks text with
      | ']' :: rest => some (.array [], rest)
      | text => (itemsOnto? fuel [] text).map fun (items, rest) => (.array items, rest)
    | '{' :: text =>
      match skipBlanks text with
      | '}' :: rest => some (.object [], rest)
      | text => (membersOnto? fuel [] text).map fun (members, rest) => (.object members, rest)
    | 'n' :: _ => (word? "null" text).map fun rest => (.null, rest)
    | 't' :: _ => (word? "true" text).map fun rest => (.bool true, rest)
    | 'f' :: _ => (word? "false" text).map fun rest => (.bool false, rest)
    | _ => (literal? text).map fun (literal, rest) => (.number literal, rest)

/-- The items of an array from the front of a text up to the closing bracket; `acc` holds the items
    before them in reverse. -/
def itemsOnto? : Nat → List Raw → List Char → Option (List Raw × List Char)
  | 0, _, _ => none
  | fuel + 1, acc, text =>
    match value? fuel text with
    | some (item, rest) =>
      match skipBlanks rest with
      | ',' :: rest => itemsOnto? fuel (item :: acc) (skipBlanks rest)
      | ']' :: rest => some ((item :: acc).reverse, rest)
      | _ => none
    | none => none

/-- The members of an object from the front of a text up to the closing brace; `acc` holds the
    members before them in reverse. -/
def membersOnto? : Nat → List (List Piece × Raw) → List Char →
    Option (List (List Piece × Raw) × List Char)
  | 0, _, _ => none
  | fuel + 1, acc, text =>
    match text with
    | '"' :: text =>
      match piecesOnto [] text with
      | some (name, rest) =>
        match skipBlanks rest with
        | ':' :: rest =>
          match value? fuel (skipBlanks rest) with
          | some (value, rest) =>
            match skipBlanks rest with
            | ',' :: rest => membersOnto? fuel ((name, value) :: acc) (skipBlanks rest)
            | '}' :: rest => some (((name, value) :: acc).reverse, rest)
            | _ => none
          | none => none
        | _ => none
      | none => none
    | _ => none

end

/-- The tree of a whole text: one value, with nothing but blanks around it. -/
def ofText? (text : String) : Option Raw :=
  let chars := text.toList
  match value? (chars.length + 1) (skipBlanks chars) with
  | some (raw, rest) => if (skipBlanks rest).isEmpty then some raw else none
  | none => none

end Raw

end DeviceEnablement.Json
