/-
  The characters of YAML.

  1. A line ends with a line feed, a carriage return, both in this order, or one of the characters
     U+0085, U+2028 and U+2029.
  2. A character that is not allowed may stand nowhere in a text; one that cannot be shown is
     written as an escape.
-/

namespace DeviceEnablement.Yaml

/-- Whether a character separates words. -/
def isBlank (c : Char) : Bool := c = ' ' ∨ c = '\t'

/-- Whether a character breaks a line. -/
def isBreak (c : Char) : Bool :=
  c = '\n' ∨ c = '\x0d' ∨ c = '\u0085' ∨ c = '\u2028' ∨ c = '\u2029'

/-- What a line break is read as: a line feed, unless it is a line or paragraph separator. -/
def readBreak (c : Char) : Char := if c = '\u2028' ∨ c = '\u2029' then c else '\n'

/-- Whether a text may hold this character at all. -/
def isAllowed (c : Char) : Bool :=
  let n := c.toNat
  n = 0x09 ∨ n = 0x0A ∨ n = 0x0D ∨ (0x20 ≤ n ∧ n ≤ 0x7E) ∨ n = 0x85 ∨ (0xA0 ≤ n ∧ n ≤ 0xD7FF)
    ∨ (0xE000 ≤ n ∧ n ≤ 0xFFFD) ∨ 0x10000 ≤ n

/-- Whether a character can be shown as it is. -/
def isPrintable (c : Char) : Bool :=
  let n := c.toNat
  n = 0x0A ∨ (0x20 ≤ n ∧ n ≤ 0x7E) ∨ (0xA0 ≤ n ∧ n ≤ 0xD7FF)
    ∨ (0xE000 ≤ n ∧ n ≤ 0xFFFD ∧ n ≠ 0xFEFF) ∨ 0x10000 ≤ n

/-- Whether a character may stand in a name: a letter or digit of ASCII, a dash or an underscore. -/
def isNameChar (c : Char) : Bool := c.isAlphanum ∨ c = '-' ∨ c = '_'

/-- Whether no plain scalar begins with this character, whatever follows it. -/
def isIndicator (c : Char) : Bool := ",[]\x7b\x7d#&*!|>'\"%@\x60".toList.contains c

/-- Whether a character ends a plain scalar inside a flow collection. -/
def isFlowMark (c : Char) : Bool := ",[]\x7b\x7d".toList.contains c

end DeviceEnablement.Yaml
