/-
  The reading of the tokens of a YAML text.

  1. The key of an entry may have no mark of its own.  It is known as a key when the colon behind it
     comes.  So the place where a key may begin is kept (`KeyPlace`), and the tokens that say that
     an entry begins are put in there later (`Lexer.markKey`).
  2. Such a key and its colon stand on one line, at most 1024 bytes apart.
  3. A token in the column of a block collection that is no dash must be the key of an entry
     (`KeyPlace.required`).
  4. What stands left of a block collection ends it.
  5. Inside of flow collections the indentation means nothing.
  6. The names of anchors are numbered in the order in which they are first given.  A name that is
     given again gets the number that a new name would get.
-/
import DeviceEnablement.Yaml.BlockScalar
import DeviceEnablement.Yaml.Plain
import DeviceEnablement.Yaml.Quoted
import DeviceEnablement.Yaml.Tag
import DeviceEnablement.Yaml.Token

namespace DeviceEnablement.Yaml

/-! ## The state between two tokens -/

/-- A place where the key of an entry may begin. -/
structure KeyPlace where
  cell : Cell
  /-- The number of tokens before it. -/
  before : Nat
  /-- Whether there must be a key. -/
  required : Bool

namespace KeyPlace

/-- Whether a key that begins here cannot have its colon at `c` or behind it. -/
def isStale (c : Cell) (place : KeyPlace) : Bool :=
  place.cell.line < c.line || place.cell.offset + 1024 < c.offset

end KeyPlace

/-- How far a text has been read. -/
structure Lexer where
  /-- What follows. -/
  rest : List Cell
  /-- The tokens so far. -/
  tokens : Array Token := #[]
  /-- The columns of the open block collections, the innermost in front. -/
  columns : List Nat := []
  /-- Where the key of an entry of the innermost open collection may have begun. -/
  place : Option KeyPlace := none
  /-- The same for what is around each open flow collection, the innermost in front. -/
  outer : List (Option KeyPlace) := []
  /-- Whether the next token may be the beginning of a key, or of a block collection. -/
  fresh : Bool := true
  /-- The names of anchors and their numbers. -/
  names : List (String × Nat) := []
  directives : Directives := {}

namespace Lexer

/-- Whether a flow collection is open. -/
def inFlow (l : Lexer) : Bool := !l.outer.isEmpty

/-- The least column of what belongs to the innermost block collection. -/
def least (l : Lexer) : Nat :=
  match l.columns with
  | [] => 0
  | column :: _ => column + 1

/-- Adds a token, which `rest` follows. -/
def push (token : Token) (rest : List Cell) (l : Lexer) : Lexer :=
  { l with tokens := l.tokens.push token, rest }

/-- Ends the innermost block collections whose columns are `ended`. -/
def endBlocks (ended : Nat → Bool) (l : Lexer) : Lexer :=
  if l.inFlow then l
  else
    let count := (l.columns.takeWhile ended).length
    { l with tokens := l.tokens ++ Array.replicate count .blockEnd
             columns := l.columns.drop count }

/-- Begins a block collection in `column`, behind the first `before` tokens, unless one is open in
    that column. -/
def beginBlock (kind : Collection) (column before : Nat) (l : Lexer) : Lexer :=
  if l.inFlow || column < l.least then l
  else
    { l with tokens := l.tokens.insertIdxIfInBounds before (.blockStart kind)
             columns := column :: l.columns }

/-- Says that no key begins at the place that was kept; none if there had to be one. -/
def dropPlace (l : Lexer) : Option Lexer :=
  if l.place.any fun place => place.required then none else some { l with place := none }

/-- Keeps the place of `c` if a key may begin there. -/
def keepPlace (c : Cell) (l : Lexer) : Option Lexer :=
  if l.fresh then
    let required := !l.inFlow && l.columns.head? = some c.column
    l.dropPlace.map fun l => { l with place := some ⟨c, l.tokens.size, required⟩ }
  else some l

/-- Drops the places whose keys cannot have their colon at `c`; none if one of them had to be a
    key. -/
def dropStale (c : Cell) (l : Lexer) : Option Lexer :=
  let stale := (l.place :: l.outer).filterMap fun place => place.filter (·.isStale c)
  if stale.any fun place => place.required then none
  else
    let keep := fun place : Option KeyPlace => place.filter fun place => !place.isStale c
    some { l with place := keep l.place, outer := l.outer.map keep }

/-- Says that a key begins at a place, and a block mapping too unless one is open in its column. -/
def markKey (place : KeyPlace) (l : Lexer) : Lexer :=
  { l with
    tokens := l.tokens.insertIdxIfInBounds place.before .key
    place := none }.beginBlock .mapping place.cell.column place.before

/-! ## Reading a token -/

/-- Passes blanks, comments and line breaks, and a byte order mark at the beginning of a line, which
    takes up a column.  Hands back whether a key may begin behind them. -/
def spanSpace (flow : Bool) : Bool → Bool → List Cell → Bool × List Cell
  | _, fresh, [] => (fresh, [])
  | comment, fresh, c :: rest =>
    if c.isBreak then spanSpace flow false (fresh || !flow) rest
    else if comment || c.char = '#' then spanSpace flow true fresh rest
    else if c.char = ' ' || (c.char = '\t' && (flow || !fresh))
        || (c.char = '\ufeff' && c.column = 0) then
      spanSpace flow false fresh rest
    else (fresh, c :: rest)

/-- Goes to the next token. -/
def toToken (l : Lexer) : Lexer :=
  let (fresh, rest) := spanSpace l.inFlow false l.fresh l.rest
  { l with fresh, rest }

/-- Reads a token after which all blocks are ended. -/
def readBoundary (token : Token) (rest : List Cell) (l : Lexer) : Option Lexer :=
  (l.endBlocks fun _ => true).dropPlace.map fun l => { l.push token rest with fresh := false }

/-- Reads a directive behind its percent sign. -/
def readDirective (rest : List Cell) (l : Lexer) : Option Lexer :=
  match directive? l.directives rest with
  | some (directives, rest) => { l with directives }.readBoundary .directive rest
  | none => none

/-- Reads an opening bracket or brace. -/
def readOpening (kind : Collection) (c : Cell) (rest : List Cell) (l : Lexer) : Option Lexer :=
  (l.keepPlace c).map fun l =>
    { l.push (.flowStart kind) rest with place := none, outer := l.place :: l.outer, fresh := true }

/-- Reads a closing bracket or brace. -/
def readClosing (kind : Collection) (rest : List Cell) (l : Lexer) : Option Lexer :=
  l.dropPlace.map fun l =>
    { l.push (.flowEnd kind) rest with
      place := l.outer.head?.join, outer := l.outer.tail, fresh := false }

/-- Reads a comma. -/
def readComma (rest : List Cell) (l : Lexer) : Option Lexer :=
  l.dropPlace.map fun l => { l.push .comma rest with fresh := true }

/-- Reads a dash in front of an item. -/
def readDash (c : Cell) (rest : List Cell) (l : Lexer) : Option Lexer :=
  if !l.inFlow && !l.fresh then none
  else
    (l.beginBlock .sequence c.column l.tokens.size).dropPlace.map fun l =>
      { l.push .dash rest with fresh := true }

/-- Reads a question mark in front of a key. -/
def readQuestion (c : Cell) (rest : List Cell) (l : Lexer) : Option Lexer :=
  if !l.inFlow && !l.fresh then none
  else
    (l.beginBlock .mapping c.column l.tokens.size).dropPlace.map fun l =>
      { l.push .key rest with fresh := !l.inFlow }

/-- Reads a colon in front of a value. -/
def readColon (c : Cell) (rest : List Cell) (l : Lexer) : Option Lexer :=
  match l.place with
  | some place => some { (l.markKey place).push .value rest with fresh := false }
  | none =>
    if !l.inFlow && !l.fresh then none
    else
      some { (l.beginBlock .mapping c.column l.tokens.size).push .value rest with
             fresh := !l.inFlow }

/-- Reads the part of a node that begins at `c` and may be the beginning of a key. -/
def readPart (c : Cell) (part : Option (Token × List Cell)) (l : Lexer) : Option Lexer :=
  match l.keepPlace c, part with
  | some l, some (token, rest) => some { l.push token rest with fresh := false }
  | _, _ => none

/-- The name of an anchor behind its mark, and what follows it. -/
def anchorName? (cells : List Cell) : Option (String × List Cell) :=
  let (name, rest) := spanName cells
  if name.isEmpty then none
  else if atGap rest || rest.head?.any fun c => "?:,]\x7d%@\x60".toList.contains c.char then
    some (String.ofList name, rest)
  else none

/-- Reads an anchor behind its mark, which is `c`. -/
def readAnchor (c : Cell) (rest : List Cell) (l : Lexer) : Option Lexer :=
  match anchorName? rest with
  | some (name, rest) =>
    let number := l.names.length
    let names := (name, number) :: l.names.filter fun other => other.1 ≠ name
    { l with names }.readPart c (some (.anchor number, rest))
  | none => none

/-- The alias behind its mark, and what follows it. -/
def alias? (cells : List Cell) (l : Lexer) : Option (Token × List Cell) :=
  (anchorName? cells).bind fun (name, rest) =>
    (l.names.lookup name).map fun number => (.alias number, rest)

/-- The token of a scalar, and what follows it. -/
def scalarToken (style : Style) : List Char × List Cell → Token × List Cell
  | (text, rest) => (.scalar style (String.ofList text), rest)

/-- Reads a scalar behind a bar or an angle. -/
def readBlockScalar (style : Style) (rest : List Cell) (l : Lexer) : Option Lexer :=
  match l.dropPlace, blockScalar? (style = .folded) (l.columns.headD 0) l.least rest with
  | some l, some (text, rest) =>
    some { l.push (.scalar style (String.ofList text)) rest with fresh := true }
  | _, _ => none

/-- Reads a plain scalar.  A key may begin behind it on another line. -/
def readPlain (c : Cell) (rest : List Cell) (l : Lexer) : Option Lexer :=
  match l.keepPlace c, plain? l.inFlow l.least [] .empty (c :: rest) with
  | some l, some (text, gap, rest) =>
    some { l.push (.scalar .plain (String.ofList text)) rest with fresh := gap.isBroken }
  | _, _ => none

/-- Reads the token that begins with `c`, which `rest` follows. -/
def read (c : Cell) (rest : List Cell) (l : Lexer) : Option Lexer :=
  if c.column = 0 && c.char = '%' then l.readDirective rest
  else if atDocumentMark '-' (c :: rest) then l.readBoundary .documentStart (rest.drop 2)
  else if atDocumentMark '.' (c :: rest) then l.readBoundary .documentEnd (rest.drop 2)
  else if c.char = '-' && atGap rest then l.readDash c rest
  else if c.char = '?' && (l.inFlow || atGap rest) then l.readQuestion c rest
  else if c.char = ':' && (l.inFlow || atGap rest) then l.readColon c rest
  else
    match c.char with
    | '[' => l.readOpening .sequence c rest
    | '\x7b' => l.readOpening .mapping c rest
    | ']' => l.readClosing .sequence rest
    | '\x7d' => l.readClosing .mapping rest
    | ',' => l.readComma rest
    | '&' => l.readAnchor c rest
    | '*' => l.readPart c (l.alias? rest)
    | '!' =>
      l.readPart c ((tag? l.directives.handles l.inFlow (c :: rest)).map fun (text, rest) =>
        (.tag text, rest))
    | '\'' => l.readPart c ((singleQuoted? [] .empty false rest).map (scalarToken .quoted))
    | '"' => l.readPart c ((doubleQuoted? [] .empty .nothing rest).map (scalarToken .quoted))
    | '|' => if l.inFlow then none else l.readBlockScalar .literal rest
    | '>' => if l.inFlow then none else l.readBlockScalar .folded rest
    | _ => if isIndicator c.char || c.isBlank then none else l.readPlain c rest

/-- Reads all tokens that follow.  Each takes one unit of fuel, and so does the end of the text. -/
def run : Nat → Lexer → Option Lexer
  | 0, _ => none
  | fuel + 1, l =>
    let l := l.toToken
    match l.rest with
    | [] => (l.endBlocks fun _ => true).dropPlace
    | c :: rest =>
      match l.dropStale c with
      | none => none
      | some l =>
        match (l.endBlocks fun column => c.column < column).read c rest with
        | some l => run fuel l
        | none => none

end Lexer

/-- The tokens of a text. -/
def tokens? (text : String) : Option (List Token) :=
  (cells? text).bind fun cells =>
    (Lexer.run (cells.length + 1) { rest := cells }).map fun l => l.tokens.toList

end DeviceEnablement.Yaml
