/-
  Tags and directives.

  A tag stands before a node.  It is written between angles, or as a handle and a suffix; the handle
  stands for the text that a directive at the beginning of the document gives it, and `!` and `!!`
  have a meaning of their own if no directive gives them one.  `!` alone is a tag too.

  1. Bytes may be written in base sixteen behind a percent sign.  Those of one character stand side
     by side.  In a tag that has been read each is the character of that code.
  2. A byte of zero ends a tag.
  3. The other directive states the version.  Either may be given once, that of a handle once for
     each handle.
-/
import DeviceEnablement.Text.Numeral
import DeviceEnablement.Yaml.Cell

namespace DeviceEnablement.Yaml

/-! ## The characters of a tag -/

/-- Whether a character may stand in a tag.  A comma and brackets may where the end of the tag is
    marked by something else. -/
def isTagChar (marked : Bool) (c : Char) : Bool :=
  isNameChar c || ";/?:@&=+$.!~*'()%".toList.contains c || (marked && ",[]".toList.contains c)

/-- The number of bytes that follow the first byte of a character; none if no character begins with
    this byte. -/
def followers? (byte : Nat) : Option Nat :=
  if byte < 0x80 then some 0
  else if byte / 0x20 = 0x06 then some 1
  else if byte / 0x10 = 0x0E then some 2
  else if byte / 0x08 = 0x1E then some 3
  else none

/-- The number of bytes of the character that are to come behind this byte, where `due` were to come
    before it; none if it is no such byte. -/
def followersAfter? (due byte : Nat) : Option Nat :=
  match due with
  | 0 => followers? byte
  | due + 1 => if byte / 0x40 = 0x02 then some due else none

/-- Reads the characters of a tag onto `acc`, the characters so far in reverse; `due` more bytes of
    the last one are to come. -/
def tagChars? (marked : Bool) (acc : List Char) :
    Nat → List Cell → Option (List Char × List Cell)
  | 0, [] => some (acc.reverse, [])
  | _ + 1, [] => none
  | due, c :: rest =>
    if c.char = '%' then
      match rest with
      | high :: low :: rest =>
        match Numeral.digits? 16 [high.char, low.char] with
        | some byte =>
          match followersAfter? due byte with
          | some due => tagChars? marked (Char.ofNat byte :: acc) due rest
          | none => none
        | none => none
      | _ => none
    else if 0 < due then none
    else if isTagChar marked c.char then tagChars? marked (c.char :: acc) 0 rest
    else some (acc.reverse, c :: rest)

/-- The text of a tag up to a byte of zero. -/
def tagText (chars : List Char) : String := String.ofList (chars.takeWhile (· ≠ '\x00'))

/-- The text that stands here in a tag, at least one character, and what follows it. -/
def tagText? (marked : Bool) (cells : List Cell) : Option (String × List Cell) :=
  match tagChars? marked [] 0 cells with
  | some ([], _) => none
  | some (chars, rest) => some (tagText chars, rest)
  | none => none

/-! ## Handles -/

/-- The handles that have a meaning. -/
abbrev Handles : Type := List (String × String)

/-- The handles that mean something in every document. -/
def standardHandles : Handles := [("!", "!"), ("!!", "tag:yaml.org,2002:")]

/-- A handle: an exclamation mark, a name, and whether a second mark closes it. -/
structure Handle where
  name : List Char
  closed : Bool

namespace Handle

/-- The written form of a handle. -/
def text (h : Handle) : String := String.ofList ('!' :: (h.name ++ if h.closed then ['!'] else []))

end Handle

/-- The handle that stands here, and what follows it. -/
def handle? : List Cell → Option (Handle × List Cell)
  | c :: rest =>
    if c.char = '!' then
      match spanName rest with
      | (name, d :: rest) =>
        some (if d.char = '!' then (⟨name, true⟩, rest) else (⟨name, false⟩, d :: rest))
      | (name, []) => some (⟨name, false⟩, [])
    else none
  | [] => none

/-! ## Tags -/

/-- The tag between angles, behind the first one, and what follows the second one. -/
def markedTag? (cells : List Cell) : Option (String × List Cell) :=
  match tagText? true cells with
  | some (tag, c :: rest) => if c.char = '>' then some (tag, rest) else none
  | _ => none

/-- The tag that is written as a handle and a suffix, and what follows it. -/
def handleTag? (handles : Handles) (cells : List Cell) : Option (String × List Cell) := do
  let (handle, rest) ← handle? cells
  if handle.closed then
    let meaning ← (handles ++ standardHandles).lookup handle.text
    let (suffix, rest) ← tagText? false rest
    return (meaning ++ suffix, rest)
  else
    let meaning ← (handles ++ standardHandles).lookup "!"
    let (suffix, rest) ← tagChars? false handle.name.reverse 0 rest
    return (if tagText suffix = "" then "!" else meaning ++ tagText suffix, rest)

/-- The tag that stands here, and what follows it: a gap, or a comma in a flow collection. -/
def tag? (handles : Handles) (flow : Bool) (cells : List Cell) : Option (String × List Cell) := do
  let (tag, rest) ← match cells with
    | _ :: c :: rest => if c.char = '<' then markedTag? rest else handleTag? handles cells
    | _ => handleTag? handles cells
  if atGap rest || (flow && rest.head?.any fun c => c.char = ',') then some (tag, rest) else none

/-! ## Directives -/

/-- What the directives of a document say. -/
structure Directives where
  /-- Whether the version has been stated. -/
  versioned : Bool := false
  handles : Handles := []

/-- The number of a version that stands here, at most nine digits long, and what follows it. -/
def versionNumber? (cells : List Cell) : Option (Nat × List Cell) :=
  let digits := (cells.takeWhile fun c => c.char.isDigit).map Cell.char
  if digits.length ≤ 9 then
    (Numeral.digits? 10 digits).map fun n => (n, cells.drop digits.length)
  else none

/-- What follows the version that stands here: 1.1 or 1.2. -/
def afterVersion? (cells : List Cell) : Option (List Cell) :=
  match versionNumber? (afterBlanks cells) with
  | some (1, c :: rest) =>
    if c.char = '.' then
      match versionNumber? rest with
      | some (minor, rest) => if minor = 1 ∨ minor = 2 then some rest else none
      | none => none
    else none
  | _ => none

/-- The handle and its meaning that stand here, and what follows them. -/
def handleMeaning? (cells : List Cell) : Option (String × String × List Cell) := do
  let (handle, rest) ← handle? (afterBlanks cells)
  if handle.closed || handle.name.isEmpty then
    let c ← rest.head?
    if c.isBlank then
      let (meaning, rest) ← tagText? true (afterBlanks rest)
      if atGap rest then some (handle.text, meaning, rest) else none
    else none
  else none

/-- What the directives say with the one that stands here, and what follows its line. -/
def directive? (known : Directives) (cells : List Cell) : Option (Directives × List Cell) := do
  let (name, rest) := spanName cells
  if atGap rest then
    if name = "YAML".toList then
      let rest ← afterVersion? rest
      if known.versioned then none else return ({ known with versioned := true }, ← afterLine? rest)
    else if name = "TAG".toList then
      let (handle, meaning, rest) ← handleMeaning? rest
      if (known.handles.lookup handle).isSome then none
      else return ({ known with handles := (handle, meaning) :: known.handles }, ← afterLine? rest)
    else none
  else none

end DeviceEnablement.Yaml
