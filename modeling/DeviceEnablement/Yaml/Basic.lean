/-
  YAML nodes, and what they mean as values.

  1. A node may be given a number by an anchor and stand again as an alias (`target?`).  An alias
     stands for the last node in the document that has its number, be it before or behind it.
  2. A scalar in quotes is text.  A plain one is text too where a text is wanted; elsewhere it may
     be absent (empty or one of the words for null), a boolean or a number.
  3. A tag makes a plain scalar a text where one may be absent, unless it is the tag of null.  A
     scalar behind a bar with the tag of booleans or of numbers is read like a plain one.

  A number is written in base ten, or after `0x`, `0o` or `0b` in base sixteen, eight or two, with
  an optional plus sign; decimal digits that begin with a superfluous zero are no number.
-/
import DeviceEnablement.Text.Numeral

namespace DeviceEnablement

/-- How a scalar is written. -/
inductive Yaml.Style
  | plain
  | quoted
  /-- On lines of its own, behind a bar. -/
  | literal
  /-- On lines of its own that are folded, behind an angle. -/
  | folded
  deriving DecidableEq

/-- A YAML node. -/
inductive Yaml
  /-- A text, with the tag in front of it if there is one. -/
  | scalar (tag : Option String) (style : Yaml.Style) (text : String)
  | sequence (items : List Yaml)
  | mapping (entries : List (Yaml × Yaml))
  /-- A node with a number under which it may stand again. -/
  | anchored (number : Nat) (node : Yaml)
  /-- The last node with this number. -/
  | alias (number : Nat)

namespace Yaml

/-- The node where nothing is written. -/
def empty : Yaml := .scalar none .plain ""

/-! ## Aliases -/

mutual

/-- The last node inside of a node that has this number. -/
def lastNumbered? (number : Nat) : Yaml → Option Yaml
  | .scalar .. => none
  | .alias _ => none
  | .sequence items => lastNumberedItem? number items
  | .mapping entries => lastNumberedEntry? number entries
  | .anchored other node =>
    match lastNumbered? number node with
    | some inner => some inner
    | none => if other = number then some node else none

/-- The last node in some items that has this number. -/
def lastNumberedItem? (number : Nat) : List Yaml → Option Yaml
  | [] => none
  | item :: rest =>
    match lastNumberedItem? number rest with
    | some node => some node
    | none => lastNumbered? number item

/-- The last node in some entries that has this number. -/
def lastNumberedEntry? (number : Nat) : List (Yaml × Yaml) → Option Yaml
  | [] => none
  | (key, value) :: rest =>
    match lastNumberedEntry? number rest with
    | some node => some node
    | none =>
      match lastNumbered? number value with
      | some node => some node
      | none => lastNumbered? number key

end

/-- A node without its number, or the one that it stands for in the document `root`. -/
def target? (root : Yaml) : Yaml → Option Yaml
  | .anchored _ node => some node
  | .alias number => lastNumbered? number root
  | node => some node

/-! ## Plain scalars -/

/-- Whether a word means that there is no value. -/
def isNull (word : String) : Bool := ["null", "Null", "NULL", "~"].contains word

/-- The boolean meant by a word. -/
def bool? (word : String) : Option Bool :=
  if ["true", "True", "TRUE"].contains word then some true
  else if ["false", "False", "FALSE"].contains word then some false
  else none

/-- The digits of a number without its sign. -/
def withoutSign : List Char → List Char
  | '+' :: rest => rest
  | '-' :: rest => rest
  | text => text

/-- Whether a text is a row of digits that begins with a superfluous zero. -/
def isPaddedNumber (text : List Char) : Bool :=
  match withoutSign text with
  | '0' :: c :: rest => (c :: rest).all Char.isDigit
  | _ => false

/-- The number in another base that is written after its mark. -/
def marked? : List Char → Option Nat
  | '0' :: 'x' :: digits => Numeral.digits? 16 digits
  | '0' :: 'o' :: digits => Numeral.digits? 8 digits
  | '0' :: 'b' :: digits => Numeral.digits? 2 digits
  | _ => none

/-- The number that is not negative in a text. -/
def number? (text : List Char) : Option Nat :=
  let unsigned := match text with
    | '+' :: rest => rest
    | text => text
  match marked? unsigned with
  | some n => some n
  | none => if isPaddedNumber text then none else Numeral.digits? 10 unsigned

/-! ## Nodes as values -/

/-- The tag of scalars of a kind. -/
def standardTag (kind : String) : String := "tag:yaml.org,2002:" ++ kind

/-- The text of a scalar. -/
def text? (root node : Yaml) : Option String :=
  match target? root node with
  | some (.scalar _ _ text) => some text
  | _ => none

/-- The text of a scalar that may be absent, in which case it is none; none at all if the node is no
    such scalar. -/
def optionalText? (root node : Yaml) : Option (Option String) :=
  match target? root node with
  | some (.scalar none .plain text) =>
    some (if text = "" ∨ isNull text then none else some text)
  | some (.scalar (some tag) .plain text) =>
    if tag = standardTag "null" then if isNull text then some none else none
    else some (some text)
  | some (.scalar _ _ text) => some (some text)
  | _ => none

/-- The word in a scalar that is plain, or behind a bar with the tag of its kind. -/
def word? (kind : String) (root node : Yaml) : Option String :=
  match target? root node with
  | some (.scalar _ .plain text) => some text
  | some (.scalar (some tag) .literal text) => if tag = standardTag kind then some text else none
  | _ => none

/-- The boolean in a node. -/
def toBool? (root node : Yaml) : Option Bool := (word? "bool" root node).bind bool?

/-- The number in a node, if it is at most `max`. -/
def natUpTo? (max : Nat) (root node : Yaml) : Option Nat :=
  ((word? "int" root node).bind fun text => number? text.toList).filter (· ≤ max)

/-- The entries of a mapping; a node where nothing is written has none. -/
def entries? (root node : Yaml) : Option (List (Yaml × Yaml)) :=
  match target? root node with
  | some (.mapping entries) => some entries
  | some (.scalar _ .plain "") => some []
  | _ => none

end Yaml

end DeviceEnablement
