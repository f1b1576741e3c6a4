/-
  The written form of a property tree.

  A name is its number of UTF-8 bytes, a colon and the text, or `_` when there is none.  A string is
  `s` and the same form, an integer `i` with its decimal digits and a semicolon, a boolean `t` or
  `f`; a set stands in braces and an array in brackets.
-/
import DeviceEnablement.Property.Tree

namespace DeviceEnablement

namespace PropertyValue

/-- A text with its length in front. -/
def sized (text : String) : List Char :=
  (toString text.utf8ByteSize).toList ++ ':' :: text.toList

/-- The written form of a name. -/
def nameChars : Option String → List Char
  | some name => sized name
  | none => ['_']

mutual

/-- The written form of a value. -/
def chars : PropertyValue → List Char
  | .string text => 's' :: sized text
  | .integer n => 'i' :: ((toString n).toList ++ [';'])
  | .bool true => ['t']
  | .bool false => ['f']
  | .set members => '\x7b' :: (nodesChars members ++ ['\x7d'])
  | .array elements => '[' :: (nodesChars elements ++ [']'])

/-- The written forms of nodes, one behind the other. -/
def nodesChars : List (Option String × PropertyValue) → List Char
  | [] => []
  | (name, value) :: rest => nameChars name ++ (chars value ++ nodesChars rest)

end

end PropertyValue

/-- The written form of a tree. -/
def PropertyNode.text (node : PropertyNode) : String :=
  String.ofList (PropertyValue.nameChars node.1 ++ node.2.chars)

end DeviceEnablement
