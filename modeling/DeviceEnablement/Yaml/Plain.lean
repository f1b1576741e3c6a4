/-
  Scalars without quotes.

  A plain scalar goes on over gaps and ends before

  1. a colon with a gap behind it,
  2. a comment, which has a gap before it,
  3. a comma, bracket or brace inside a flow collection,
  4. a line that stands too far left, outside of flow collections, and
  5. a line with a document mark.

  Inside a flow collection a colon may have none of the marks of a flow collection behind it, nor a
  question mark.  A tab may not stand where the indentation is.
-/
import DeviceEnablement.Yaml.Gap

namespace DeviceEnablement.Yaml

/-- Whether a colon stands here with a mark behind it that it may not have in a flow collection. -/
def atMarkedColon : List Cell → Bool
  | c :: d :: _ => c.char = ':' && (isFlowMark d.char || d.char = '?')
  | _ => false

/-- Whether a word of a plain scalar ends here. -/
def atPlainEnd (flow : Bool) : List Cell → Bool
  | c :: rest => (c.char = ':' && atGap rest) || (flow && isFlowMark c.char)
  | [] => true

/-- Whether no word of a plain scalar that belongs to column `least` may begin here behind a gap. -/
def atForeignWord (flow : Bool) (least : Nat) : List Cell → Bool
  | c :: rest => (!flow && c.column < least) || c.char = '#' || atDocumentBoundary (c :: rest)
  | [] => true

/-- Reads a plain scalar onto `acc`, the characters so far in reverse, which `gap` follows.  Hands
    back its text, the gap behind it and what follows that. -/
def plain? (flow : Bool) (least : Nat) (acc : List Char) (gap : Gap) :
    List Cell → Option (List Char × Gap × List Cell)
  | [] => some (acc.reverse, gap, [])
  | c :: rest =>
    if c.isGap then
      if c.char = '\t' && gap.isBroken && c.column < least then none
      else plain? flow least acc (gap.push c.char) rest
    else if !gap.isEmpty && atForeignWord flow least (c :: rest) then
      some (acc.reverse, gap, c :: rest)
    else if flow && atMarkedColon (c :: rest) then none
    else if atPlainEnd flow (c :: rest) then some (acc.reverse, gap, c :: rest)
    else plain? flow least (c.char :: (gap.text ++ acc)) .empty rest

end DeviceEnablement.Yaml
