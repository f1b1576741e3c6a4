/-
  The written form of texts in YAML.

  A text is written in the plainest way in which it is still read as that text:

  1. on lines of its own behind a bar if it holds a line break,
  2. in single quotes if it would otherwise mean something else (`hasMeaning`), or could not stand
     plain (`isPlainAllowed`),
  3. in double quotes, with escapes, if it holds characters that cannot be shown, and plain
     otherwise.

  The separators U+2028 and U+2029 break a line too, but are no reason for a bar.
-/
import DeviceEnablement.Text.Double
import DeviceEnablement.Yaml.Basic
import DeviceEnablement.Yaml.Character

namespace DeviceEnablement.Yaml

/-! ## What a plain text would mean -/

/-- The words for infinity and for what is no number. -/
def floatWords : List String :=
  [".inf", ".Inf", ".INF", "+.inf", "+.Inf", "+.INF", "-.inf", "-.Inf", "-.INF", ".nan", ".NaN",
   ".NAN"]

/-- The digits and the rest of a text. -/
def splitDigits (text : List Char) : List Char × List Char :=
  (text.takeWhile Char.isDigit, text.dropWhile Char.isDigit)

/-- The exponent written at the end of a decimal number; 0 if none is. -/
def exponent? : List Char → Option Int
  | [] => some 0
  | c :: rest =>
    if c = 'e' ∨ c = 'E' then
      match rest with
      | '-' :: digits => (Numeral.digits? 10 digits).map fun n => -(n : Int)
      | digits => (Numeral.unsigned? 10 digits).map fun n => (n : Int)
    else none

/-- A decimal number without its sign, as a significand and a power of ten. -/
def decimal? (text : List Char) : Option (Nat × Int) :=
  let (whole, rest) := splitDigits text
  let (fraction, rest) := match rest with
    | '.' :: rest => splitDigits rest
    | rest => ([], rest)
  match Numeral.digits? 10 (whole ++ fraction), exponent? rest with
  | some significand, some exponent => some (significand, exponent - fraction.length)
  | _, _ => none

/-- Whether a decimal number fits in a double. -/
def fitsDouble (significand : Nat) (exponent : Int) : Bool :=
  if significand = 0 then true
  else if exponent ≤ 0 then
    -- A number with fewer digits than the negative exponent is below one.
    significand.log2 < 3 * exponent.natAbs
      || significand < Double.bound * Nat.pow 10 exponent.natAbs
  else exponent ≤ 309 && significand * Nat.pow 10 exponent.toNat < Double.bound

/-- Whether a text is a decimal number with an optional sign that fits in a double. -/
def isDecimal (text : List Char) : Bool :=
  match decimal? (withoutSign text) with
  | some (significand, exponent) => fitsDouble significand exponent
  | none => false

/-- Whether a text is a number in another base that fits in 128 bits, with a sign in the negative
    case. -/
def isMarked (text : List Char) : Bool :=
  match text with
  | '-' :: rest => (marked? rest).any (· ≤ Nat.pow 2 127)
  | '+' :: rest => (marked? rest).any (· < Nat.pow 2 128)
  | _ => (marked? text).any (· < Nat.pow 2 128)

/-- Whether a plain text would be read as something else than this text. -/
def hasMeaning (text : String) : Bool :=
  text = "" || isNull text || (bool? text).isSome || floatWords.contains text
    || isPaddedNumber text.toList || isMarked text.toList || isDecimal text.toList

/-! ## What can be shown -/

/-- Whether a text begins with a blank or a line break, or is empty. -/
def atBlank : List Char → Bool
  | [] => true
  | c :: _ => isBlank c ∨ isBreak c

/-- Whether a character stands in a text behind `before` that a plain text may not have there. -/
def hasMark (before : Option Char) : List Char → Bool
  | [] => false
  | c :: rest =>
    let marks := match before with
      | none => isIndicator c || ("?:-".toList.contains c && atBlank rest)
      | some b => (c = ':' && atBlank rest) || (c = '#' && atBlank [b])
    marks || hasMark (some c) rest

/-- Whether a space and a line break stand side by side, the space before the break. -/
def hasSpaceBreak : List Char → Bool
  | [] => false
  | [_] => false
  | a :: b :: rest => (a = ' ' && isBreak b) || hasSpaceBreak (b :: rest)

/-- Whether a line break and a space stand side by side, the break before the space. -/
def hasBreakSpace : List Char → Bool
  | [] => false
  | [_] => false
  | a :: b :: rest => (isBreak a && b = ' ') || hasBreakSpace (b :: rest)

/-- Whether a text needs escapes. -/
def needsEscapes (text : List Char) : Bool :=
  text.any (fun c => !isPrintable c) || hasSpaceBreak text

/-- Whether a text can stand plain. -/
def isPlainAllowed (text : List Char) : Bool :=
  !needsEscapes text && !text.any isBreak && !hasMark none text
    && text.head? ≠ some ' ' && text.getLast? ≠ some ' '
    && text.take 3 ≠ ['-', '-', '-'] && text.take 3 ≠ ['.', '.', '.']

/-! ## Writing -/

/-- The lines of a text; `fresh` says that a line begins.  A line with something on it is indented
    by `indent`. -/
def indented (indent : Nat) : Bool → List Char → List Char
  | _, [] => []
  | fresh, c :: rest =>
    if isBreak c then c :: indented indent true rest
    else if fresh then List.replicate indent ' ' ++ c :: indented indent false rest
    else c :: indented indent false rest

/-- Whether a text ends with a line break. -/
def endsBroken (text : List Char) : Bool := text.getLast?.any isBreak

/-- A text in single quotes, the further lines of which are indented by `indent`. -/
def inSingleQuotes (indent : Nat) (text : List Char) : List Char :=
  let quoted := text.flatMap fun c => if c = '\'' then ['\'', '\''] else [c]
  let margin := if endsBroken text then List.replicate indent ' ' else []
  '\'' :: (indented indent false quoted ++ (margin ++ ['\'']))

/-- The digits of a character's code, upper case, at least `width` of them. -/
def codeDigits (width n : Nat) : List Char :=
  let ds := (Hexadecimal.digits n).map Char.toUpper
  List.replicate (width - ds.length) '0' ++ ds

/-- A character in double quotes. -/
def escaped (c : Char) : List Char :=
  let n := c.toNat
  if n = 0 then ['\\', '0']
  else if n = 7 then ['\\', 'a']
  else if n = 8 then ['\\', 'b']
  else if n = 9 then ['\\', 't']
  else if n = 10 then ['\\', 'n']
  else if n = 11 then ['\\', 'v']
  else if n = 12 then ['\\', 'f']
  else if n = 13 then ['\\', 'r']
  else if n = 27 then ['\\', 'e']
  else if c = '"' then ['\\', '"']
  else if c = '\\' then ['\\', '\\']
  else if n = 0x85 then ['\\', 'N']
  else if n = 0x2028 then ['\\', 'L']
  else if n = 0x2029 then ['\\', 'P']
  else if isPrintable c then [c]
  else if n ≤ 0xFF then '\\' :: 'x' :: codeDigits 2 n
  else if n ≤ 0xFFFF then '\\' :: 'u' :: codeDigits 4 n
  else '\\' :: 'U' :: codeDigits 8 n

/-- A text in double quotes. -/
def inDoubleQuotes (text : List Char) : List Char := '"' :: (text.flatMap escaped ++ ['"'])

/-- The marks behind the bar: the indentation if the text begins with a blank, and how its last line
    breaks are kept. -/
def barMarks (text : List Char) : List Char :=
  (if atBlank text then ['2'] else [])
    ++ match text.reverse with
       | [c] => if isBreak c then ['+'] else ['-']
       | c :: d :: _ => if !isBreak c then ['-'] else if isBreak d then ['+'] else []
       | [] => ['-']

/-- A text on lines of its own, up to the end of the last one. -/
def behindBar (indent : Nat) (text : List Char) : List Char :=
  '|' :: (barMarks text ++ '\n' :: indented indent true text)

/-- The written form of a text whose further lines are indented by `indent`. -/
def written (indent : Nat) (text : String) : List Char :=
  let chars := text.toList
  let quoted :=
    if needsEscapes chars || hasBreakSpace chars then inDoubleQuotes chars
    else inSingleQuotes indent chars
  if hasMeaning text then quoted
  else if chars.contains '\n' then
    if needsEscapes chars || chars.getLast? = some ' ' then inDoubleQuotes chars
    else behindBar indent chars
  else if isPlainAllowed chars then chars
  else quoted

end DeviceEnablement.Yaml
