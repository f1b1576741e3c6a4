/-
  Scalars on lines of their own, behind a bar or an angle.

  1. The lines are indented by a number of columns that is given behind the mark, or else by as much
     as the first line with content.  What stands further left ends the scalar.
  2. Behind an angle the break between two lines is folded, unless one of them begins with a blank.
  3. Of the breaks at the end all are kept behind a plus sign, none behind a minus sign, and else
     the one that ends the last line.
-/
import DeviceEnablement.Yaml.Cell

namespace DeviceEnablement.Yaml

/-! ## The line of the mark -/

/-- How many line breaks at the end of a block scalar are kept. -/
inductive Chomping
  | strip
  | clip
  | keep
  deriving DecidableEq

/-- The sign of a chomping. -/
def chomping? (c : Char) : Option Chomping :=
  if c = '-' then some .strip else if c = '+' then some .keep else none

/-- The number of columns that a digit here gives, and what follows it; none if it is zero.  Without
    a digit the number is not given. -/
def columns? : List Cell → Option (Option Nat × List Cell)
  | c :: rest =>
    if c.char = '0' then none
    else if c.char.isDigit then some (some (c.char.toNat - '0'.toNat), rest)
    else some (none, c :: rest)
  | [] => some (none, [])

/-- The sign that stands here, and what follows it. -/
def spanChomping : List Cell → Option Chomping × List Cell
  | c :: rest =>
    match chomping? c.char with
    | some chomping => (some chomping, rest)
    | none => (none, c :: rest)
  | [] => (none, [])

/-- The sign and the digit behind a bar or an angle, in either order, and what follows the line. -/
def blockHeader? (cells : List Cell) : Option (Chomping × Option Nat × List Cell) := do
  let (before, rest) := spanChomping cells
  let (columns, rest) ← columns? rest
  let (behind, rest) := if before.isSome then (none, rest) else spanChomping rest
  return ((before.or behind).getD .clip, columns, ← afterLine? rest)

/-! ## The lines -/

/-- The greatest column that blank lines and the indentation of the first line with content reach,
    at least `widest`; `column` is the one that is reached so far.  None if a tab stands in the
    indentation. -/
def indentation? (widest column : Nat) : List Cell → Option Nat
  | [] => some (max widest column)
  | c :: rest =>
    if c.char = ' ' then indentation? widest (column + 1) rest
    else if c.char = '\t' then none
    else if c.isBreak then indentation? (max widest column) 0 rest
    else some (max widest column)

/-- What has been read of a block scalar; characters are kept in reverse. -/
structure BlockText where
  /-- The lines without the break behind the last one. -/
  chars : List Char := []
  /-- Whether the last line began with a blank. -/
  blankLed : Bool := false
  /-- The break behind the last line. -/
  lineEnd : Option Char := none
  /-- The breaks of the blank lines behind it. -/
  breaks : List Char := []

namespace BlockText

/-- Begins a line with the character `c`. -/
def beginLine (folded : Bool) (c : Char) (t : BlockText) : BlockText :=
  let lineEnd :=
    if folded && t.lineEnd = some '\n' && !t.blankLed && !isBlank c then
      if t.breaks = [] then [' '] else []
    else t.lineEnd.toList
  { chars := c :: (t.breaks ++ (lineEnd ++ t.chars)), blankLed := isBlank c }

/-- The text when the scalar ends. -/
def finish (chomping : Chomping) (t : BlockText) : List Char :=
  let tail := match chomping with
    | .strip => []
    | .clip => t.lineEnd.toList
    | .keep => t.breaks ++ t.lineEnd.toList
  (tail ++ t.chars).reverse

end BlockText

/-- Reads the lines of a block scalar that are indented by `indent` onto `t`; `inside` says that a
    line has begun.  Hands back what follows them; none if a tab stands in the indentation. -/
def blockLines? (folded : Bool) (indent : Nat) (t : BlockText) :
    Bool → List Cell → Option (BlockText × List Cell)
  | _, [] => some (t, [])
  | true, c :: rest =>
    if c.isBreak then blockLines? folded indent { t with lineEnd := some c.char } false rest
    else blockLines? folded indent { t with chars := c.char :: t.chars } true rest
  | false, c :: rest =>
    if c.column < indent && c.char = ' ' then blockLines? folded indent t false rest
    else if c.column < indent && c.char = '\t' then none
    else if c.isBreak then
      blockLines? folded indent { t with breaks := c.char :: t.breaks } false rest
    else if c.column = indent then
      blockLines? folded indent (t.beginLine folded c.char) true rest
    else some (t, c :: rest)

/-- Reads a block scalar behind its bar or angle and what follows it.  It stands in a block whose
    column is `outer`, and `least` is the least column of what belongs to that block. -/
def blockScalar? (folded : Bool) (outer least : Nat) (cells : List Cell) :
    Option (List Char × List Cell) := do
  let (chomping, columns, rest) ← blockHeader? cells
  let indent ← match columns with
    | some columns => some (outer + columns)
    | none => (indentation? 0 0 rest).map fun widest => max widest (max least 1)
  let (text, rest) ← blockLines? folded indent {} false rest
  return (text.finish chomping, rest)

end DeviceEnablement.Yaml
