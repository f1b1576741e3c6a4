/-
  Property trees: the form in which the body of a request is handed to a codec.

  A node has a value and, inside a set, a name.  The tree of a JSON object keeps its strings, its
  integers of 64 bits with a sign, its booleans, its objects as sets and its arrays as arrays;
  everything else is left out, and so is an array that stands directly in an array.

  `PropertyValue.toJson` reads a tree back as JSON.
-/
import DeviceEnablement.Json.Reading
import DeviceEnablement.ModelError

namespace DeviceEnablement

/-- The value of a node.  A node is a name, which the elements of an array do not have, and a
    value. -/
inductive PropertyValue
  | string (text : String)
  | integer (value : Int)
  | bool (value : Bool)
  | set (members : List (Option String × PropertyValue))
  | array (elements : List (Option String × PropertyValue))

/-- A node of a property tree. -/
abbrev PropertyNode : Type := Option String × PropertyValue

namespace PropertyNode

/-- The nodes directly below a node. -/
def children (node : PropertyNode) : List PropertyNode :=
  match node.2 with
  | .set members => members
  | .array elements => elements
  | _ => []

/-- The first node directly below with this name. -/
def child? (node : PropertyNode) (name : String) : Option PropertyNode :=
  node.children.find? fun child => child.1 = some name

end PropertyNode

namespace PropertyValue

/-! ## From JSON -/

mutual

/-- The value of a member, if it is of a supported kind. -/
def ofJson? : Json → Option PropertyValue
  | .string text => some (.string text)
  | .bool b => some (.bool b)
  | .number (.integer n) =>
    if Json.minSigned ≤ n ∧ n ≤ Json.maxSigned then some (.integer n) else none
  | .number (.decimal _) => none
  | .null => none
  | .array items => some (.array (elements items))
  | .object members => some (.set (named members))

/-- The elements of an array that are of a supported kind and no arrays. -/
def elements : List Json → List PropertyNode
  | [] => []
  | .array _ :: rest => elements rest
  | item :: rest =>
    match ofJson? item with
    | some value => (none, value) :: elements rest
    | none => elements rest

/-- The members of an object that are of a supported kind. -/
def named : List (String × Json) → List PropertyNode
  | [] => []
  | (name, item) :: rest =>
    match ofJson? item with
    | some value => (some name, value) :: named rest
    | none => named rest

end

/-! ## Back to JSON -/

mutual

/-- A value read as JSON. -/
def toJson : PropertyValue → Json
  | .string text => .string text
  | .integer n => Json.ofInt n
  | .bool b => .bool b
  | .set members => .object (membersToJson members)
  | .array elements => .array (elementsToJson elements)

/-- The members of a set read as those of an object; a node without a name has the empty one. -/
def membersToJson : List (Option String × PropertyValue) → List (String × Json)
  | [] => []
  | (name, value) :: rest => (name.getD "", value.toJson) :: membersToJson rest

/-- The elements of an array read as its items. -/
def elementsToJson : List (Option String × PropertyValue) → List Json
  | [] => []
  | (_, value) :: rest => value.toJson :: elementsToJson rest

end

end PropertyValue

namespace PropertyNode

/-! ## Request bodies -/

/-- The name of a root that does not say its own. -/
def defaultRootName : String := "Root"

/-- What stands in a text before the first `mark`, and what behind it. -/
def splitAt? (mark : Char) (text : List Char) : Option (List Char × List Char) :=
  match text.dropWhile (· ≠ mark) with
  | _ :: rest => some (text.takeWhile (· ≠ mark), rest)
  | [] => none

/-- The name in a type of the form `#Name.Version.Name`. -/
def typeName? (odataType : String) : Option String :=
  match splitAt? '#' odataType.toList with
  | some (_, rest) => (splitAt? '.' rest).map fun (name, _) => String.ofList name
  | none => none

/-- The name of the root: the one in the `@odata.type` of an object, if it has that form. -/
def rootName (json : Json) : String :=
  match json.get? "@odata.type" with
  | some (.string odataType) => (typeName? odataType).getD defaultRootName
  | _ => defaultRootName

/-- The tree of a JSON object. -/
def ofMembers (name : Option String) (members : List (String × Json)) : PropertyNode :=
  (name, .set (PropertyValue.named members))

/-- The tree of the text of a request body. -/
def ofText (text : String) : Except ModelError PropertyNode :=
  match Json.ofText? text with
  | none => .error (.invalidPayload .malformed)
  | some (.object members) => .ok (ofMembers (rootName (.object members)) members)
  | some _ => .error (.invalidPayload .notAnObject)

end PropertyNode

end DeviceEnablement
