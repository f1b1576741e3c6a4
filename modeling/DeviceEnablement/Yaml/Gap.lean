/-
  What stands between two words of a scalar.

  1. Blanks on one line are kept as they are.
  2. At a line break the blanks before and behind it are dropped, and the breaks are folded
     (`Gap.text`): one line feed becomes a space, and of more line feeds the first one is dropped.
  3. A line or paragraph separator is kept.
-/
import DeviceEnablement.Yaml.Cell

namespace DeviceEnablement.Yaml

/-- What stands between two words; characters are kept in reverse. -/
inductive Gap
  /-- Nothing but blanks. -/
  | blanks (chars : List Char)
  /-- Line breaks, the first of which is none if a backslash takes it away. -/
  | breaks (first : Option Char) (more : List Char)

namespace Gap

/-- Nothing in between. -/
def empty : Gap := .blanks []

/-- Whether there is nothing in between. -/
def isEmpty : Gap → Bool
  | .blanks [] => true
  | _ => false

/-- Whether there is a line break in between. -/
def isBroken : Gap → Bool
  | .blanks _ => false
  | .breaks .. => true

/-- The gap with a blank or a line break behind it. -/
def push (c : Char) : Gap → Gap
  | .blanks chars => if isBreak c then .breaks (some c) [] else .blanks (c :: chars)
  | .breaks first more => .breaks first (if isBreak c then c :: more else more)

/-- What a gap becomes in the text of a scalar, in reverse. -/
def text : Gap → List Char
  | .blanks chars => chars
  | .breaks (some '\n') [] => [' ']
  | .breaks (some '\n') more => more
  | .breaks first more => more ++ first.toList

end Gap

end DeviceEnablement.Yaml
