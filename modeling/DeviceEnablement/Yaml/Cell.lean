/-
  The characters of a text with their places.

  A `Cell` is a character and where it stands.  A line break is one cell, whatever it is made of
  (`cells?`).  What follows a place in a text is the list of the cells from there on.
-/
import DeviceEnablement.Yaml.Character

namespace DeviceEnablement.Yaml

/-- A character of a text and where it stands. -/
structure Cell where
  char : Char
  /-- The number of bytes before it. -/
  offset : Nat
  /-- The number of line breaks before it. -/
  line : Nat
  /-- The number of characters before it on its line. -/
  column : Nat

namespace Cell

/-- Whether a cell is a space or a tab. -/
def isBlank (c : Cell) : Bool := Yaml.isBlank c.char

/-- Whether a cell is a line break. -/
def isBreak (c : Cell) : Bool := Yaml.isBreak c.char

/-- Whether a cell is a space, a tab or a line break. -/
def isGap (c : Cell) : Bool := c.isBlank || c.isBreak

end Cell

/-! ## The cells of a text -/

/-- The cells of what follows a place. -/
def cellsFrom (offset line column : Nat) : List Char → List Cell
  | [] => []
  | '\x0d' :: '\n' :: rest =>
    ⟨'\n', offset, line, column⟩ :: cellsFrom (offset + 2) (line + 1) 0 rest
  | c :: rest =>
    if isBreak c then
      ⟨readBreak c, offset, line, column⟩ :: cellsFrom (offset + c.utf8Size) (line + 1) 0 rest
    else ⟨c, offset, line, column⟩ :: cellsFrom (offset + c.utf8Size) line (column + 1) rest

/-- The cells of a text; none if it holds a character that is not allowed. -/
def cells? (text : String) : Option (List Cell) :=
  if text.toList.all isAllowed then some (cellsFrom 0 0 0 text.toList) else none

/-! ## What stands at a place -/

/-- Whether a blank, a line break or the end of the text stands here. -/
def atGap : List Cell → Bool
  | [] => true
  | c :: _ => c.isGap

/-- Whether a document mark stands here: three times `mark` at the beginning of a line, and then a
    gap. -/
def atDocumentMark (mark : Char) : List Cell → Bool
  | a :: b :: c :: rest =>
    a.column = 0 && a.char = mark && b.char = mark && c.char = mark && atGap rest
  | _ => false

/-- Whether a mark stands here that begins or ends a document. -/
def atDocumentBoundary (cells : List Cell) : Bool :=
  atDocumentMark '-' cells || atDocumentMark '.' cells

/-- What follows the blanks that stand here. -/
def afterBlanks (cells : List Cell) : List Cell := cells.dropWhile Cell.isBlank

/-- What follows the line, on which there is nothing but blanks and perhaps a comment; none if there
    is something else. -/
def afterLine? (cells : List Cell) : Option (List Cell) :=
  let rest := match afterBlanks cells with
    | c :: rest => if c.char = '#' then rest.dropWhile (fun c : Cell => !c.isBreak) else c :: rest
    | [] => []
  match rest with
  | [] => some []
  | c :: rest => if c.isBreak then some rest else none

/-- The name that stands here, as long as possible, and what follows it. -/
def spanName (cells : List Cell) : List Char × List Cell :=
  ((cells.takeWhile fun c => isNameChar c.char).map Cell.char,
   cells.dropWhile fun c => isNameChar c.char)

end DeviceEnablement.Yaml
