/-
  The tokens of a YAML text.

  A text is a row of tokens; the blanks, comments and line breaks between them are passed over.
  Where a block collection begins and ends is said by the indentation alone, and there are tokens
  for that too.  Whether an entry has a mark before its key or not, there is a token for the mark.
  Anchors have numbers in place of names.
-/
import DeviceEnablement.Yaml.Basic

namespace DeviceEnablement.Yaml

/-- The kinds of collections. -/
inductive Collection
  | sequence
  | mapping
  deriving DecidableEq

/-- A token. -/
inductive Token
  | directive
  /-- Three dashes at the beginning of a line. -/
  | documentStart
  /-- Three dots at the beginning of a line. -/
  | documentEnd
  /-- The indentation goes to the column of a collection. -/
  | blockStart (kind : Collection)
  /-- The indentation goes back. -/
  | blockEnd
  /-- An opening bracket or brace. -/
  | flowStart (kind : Collection)
  /-- A closing bracket or brace. -/
  | flowEnd (kind : Collection)
  /-- The item of a block sequence follows. -/
  | dash
  /-- Between two items or entries of a flow collection. -/
  | comma
  /-- The key of an entry follows. -/
  | key
  /-- The value of an entry follows. -/
  | value
  | anchor (number : Nat)
  | alias (number : Nat)
  | tag (text : String)
  | scalar (style : Style) (text : String)
  deriving DecidableEq

end DeviceEnablement.Yaml
