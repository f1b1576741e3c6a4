/-
  JSON text.

  `compact` writes a value without blanks; `pretty` puts every item and member on a line of its own,
  indented by two spaces a level, and writes an empty array or object as its two brackets.  Of the
  characters only the quote, the backslash and those below U+0020 are escaped.
-/
import DeviceEnablement.Json.Basic

namespace DeviceEnablement.Json

/-! ## Leaves -/

/-- A character inside quotes. -/
def escape (c : Char) : List Char :=
  if c = '"' then ['\\', '"']
  else if c = '\\' then ['\\', '\\']
  else if c = '\x08' then ['\\', 'b']
  else if c = '\x0c' then ['\\', 'f']
  else if c = '\n' then ['\\', 'n']
  else if c = '\r' then ['\\', 'r']
  else if c = '\t' then ['\\', 't']
  else if c < ' ' then
    ['\\', 'u', '0', '0', Nat.digitChar (c.toNat / 16), Nat.digitChar (c.toNat % 16)]
  else [c]

/-- A text in quotes. -/
def quoted (text : String) : List Char := '"' :: (text.toList.flatMap escape ++ ['"'])

/-- A number. -/
def Number.text : Number → List Char
  | .integer value => (toString value).toList
  | .decimal literal => literal.toList

/-! ## Without blanks -/

/-- Texts with a comma between each two. -/
def commaSeparated : List (List Char) → List Char
  | [] => []
  | [text] => text
  | text :: rest => text ++ ',' :: commaSeparated rest

mutual

/-- A value without blanks. -/
def compactChars : Json → List Char
  | .null => ['n', 'u', 'l', 'l']
  | .bool true => ['t', 'r', 'u', 'e']
  | .bool false => ['f', 'a', 'l', 's', 'e']
  | .number n => n.text
  | .string text => quoted text
  | .array items => '[' :: (commaSeparated (compactItems items) ++ [']'])
  | .object members => '\x7b' :: (commaSeparated (compactMembers members) ++ ['\x7d'])

/-- The items of an array, each without blanks. -/
def compactItems : List Json → List (List Char)
  | [] => []
  | item :: rest => compactChars item :: compactItems rest

/-- The members of an object, each without blanks. -/
def compactMembers : List (String × Json) → List (List Char)
  | [] => []
  | (name, value) :: rest => (quoted name ++ ':' :: compactChars value) :: compactMembers rest

end

/-- The text of a value without blanks. -/
def compact (json : Json) : String := String.ofList (compactChars json)

/-! ## On several lines -/

/-- A line break and the indentation of a level. -/
def newline (level : Nat) : List Char := '\n' :: List.replicate (2 * level) ' '

/-- Texts, each on a line of its own at `level`, with commas between them. -/
def lines (level : Nat) : List (List Char) → List Char
  | [] => []
  | [text] => newline level ++ text
  | text :: rest => newline level ++ text ++ ',' :: lines level rest

mutual

/-- A value on several lines, the first of which stands at `level`. -/
def prettyChars (level : Nat) : Json → List Char
  | .null => ['n', 'u', 'l', 'l']
  | .bool true => ['t', 'r', 'u', 'e']
  | .bool false => ['f', 'a', 'l', 's', 'e']
  | .number n => n.text
  | .string text => quoted text
  | .array [] => ['[', ']']
  | .array items =>
    '[' :: (lines (level + 1) (prettyItems (level + 1) items) ++ newline level ++ [']'])
  | .object [] => ['\x7b', '\x7d']
  | .object members =>
    '\x7b' :: (lines (level + 1) (prettyMembers (level + 1) members) ++ newline level ++ ['\x7d'])

/-- The items of an array on several lines. -/
def prettyItems (level : Nat) : List Json → List (List Char)
  | [] => []
  | item :: rest => prettyChars level item :: prettyItems level rest

/-- The members of an object on several lines. -/
def prettyMembers (level : Nat) : List (String × Json) → List (List Char)
  | [] => []
  | (name, value) :: rest =>
    (quoted name ++ ':' :: ' ' :: prettyChars level value) :: prettyMembers level rest

end

/-- The text of a value on several lines. -/
def pretty (json : Json) : String := String.ofList (prettyChars 0 json)

end DeviceEnablement.Json
