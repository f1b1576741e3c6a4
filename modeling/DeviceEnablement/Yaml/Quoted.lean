/-
  Scalars in quotes.

  In single quotes a quote is written twice and all else stands for itself.  In double quotes a
  backslash begins an escape; before a line break it takes the break away.  Gaps are folded in both.
  No line inside of the quotes begins with a document mark.
-/
import DeviceEnablement.Text.Hexadecimal
import DeviceEnablement.Yaml.Gap

namespace DeviceEnablement.Yaml

/-! ## Single quotes -/

/-- Reads a scalar in single quotes up to the closing one onto `acc`, the characters so far in
    reverse, which `gap` follows.  A quote that may be the closing one is `pending`. -/
def singleQuoted? (acc : List Char) (gap : Gap) : Bool → List Cell → Option (List Char × List Cell)
  | true, [] => some (acc.reverse, [])
  | false, [] => none
  | true, c :: rest =>
    if c.char = '\'' then singleQuoted? ('\'' :: acc) .empty false rest
    else some (acc.reverse, c :: rest)
  | false, c :: rest =>
    if c.isGap then singleQuoted? acc (gap.push c.char) false rest
    else if atDocumentBoundary (c :: rest) then none
    else if c.char = '\'' then singleQuoted? (gap.text ++ acc) .empty true rest
    else singleQuoted? (c.char :: (gap.text ++ acc)) .empty false rest

/-! ## Double quotes -/

/-- The character that one letter after a backslash stands for. -/
def escape? (c : Char) : Option Char :=
  match c with
  | '0' => some '\x00'
  | 'a' => some '\x07'
  | 'b' => some '\x08'
  | 't' => some '\t'
  | '\t' => some '\t'
  | 'n' => some '\n'
  | 'v' => some '\x0b'
  | 'f' => some '\x0c'
  | 'r' => some '\x0d'
  | 'e' => some '\x1b'
  | ' ' => some ' '
  | '"' => some '"'
  | '/' => some '/'
  | '\\' => some '\\'
  | 'N' => some '\u0085'
  | '_' => some '\u00a0'
  | 'L' => some '\u2028'
  | 'P' => some '\u2029'
  | _ => none

/-- The number of hexadecimal digits after a letter that names a character by its code. -/
def codeLength? (c : Char) : Option Nat :=
  match c with
  | 'x' => some 2
  | 'u' => some 4
  | 'U' => some 8
  | _ => none

/-- The character with this code, if there is one. -/
def ofCode? (code : Nat) : Option Char :=
  if h : code.isValidChar then some (Char.ofNatAux code h) else none

/-- How much of an escape has been read. -/
inductive Escape
  | nothing
  /-- The backslash. -/
  | begun
  /-- The digits that make `value`; one more and then `left` others follow. -/
  | code (left value : Nat)

/-- Reads a scalar in double quotes up to the closing one onto `acc`, the characters so far in
    reverse, which `gap` follows. -/
def doubleQuoted? (acc : List Char) (gap : Gap) :
    Escape → List Cell → Option (List Char × List Cell)
  | _, [] => none
  | .nothing, c :: rest =>
    if c.isGap then doubleQuoted? acc (gap.push c.char) .nothing rest
    else if atDocumentBoundary (c :: rest) then none
    else if c.char = '"' then some ((gap.text ++ acc).reverse, rest)
    else if c.char = '\\' then doubleQuoted? (gap.text ++ acc) .empty .begun rest
    else doubleQuoted? (c.char :: (gap.text ++ acc)) .empty .nothing rest
  | .begun, c :: rest =>
    if c.isBreak then doubleQuoted? acc (.breaks none []) .nothing rest
    else
      match escape? c.char, codeLength? c.char with
      | some char, _ => doubleQuoted? (char :: acc) .empty .nothing rest
      | none, some length => doubleQuoted? acc .empty (.code (length - 1) 0) rest
      | none, none => none
  | .code left value, c :: rest =>
    match Hexadecimal.digit? c.char, left with
    | some d, left + 1 => doubleQuoted? acc .empty (.code left (16 * value + d)) rest
    | some d, 0 =>
      match ofCode? (16 * value + d) with
      | some char => doubleQuoted? (char :: acc) .empty .nothing rest
      | none => none
    | none, _ => none

end DeviceEnablement.Yaml
