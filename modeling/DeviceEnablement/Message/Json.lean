/-
  The JSON form of completion codes and operations.

  A value with a name is written as that name; it is also read from an object whose one member has
  that name and the value `null`.  A completion code without a name is an object whose one member
  `UNKNOWN` holds its byte.
-/
import DeviceEnablement.Message.Operation
import DeviceEnablement.Json.Reading

namespace DeviceEnablement

/-- The one name in a JSON value of that form, and the value that goes with it if there is one. -/
def Json.tagged? : Json → Option (String × Option Json)
  | .string name => some (name, none)
  | .object [(name, value)] => some (name, some value)
  | _ => none

/-- Whether a name stands alone or goes with `null`. -/
def Json.isBare : Option Json → Bool
  | none | some .null => true
  | _ => false

namespace CompletionCode

/-- The code as JSON. -/
def toJson : CompletionCode → Json
  | unknown byte => .object [("UNKNOWN", Json.ofNat byte.toNat)]
  | code => .string code.name

/-- The code in a JSON value. -/
def ofJson? (json : Json) : Option CompletionCode :=
  match json.tagged? with
  | some ("UNKNOWN", some value) => (value.natUpTo? 255).map fun n => unknown (.ofNat n)
  | some (name, value) =>
    if Json.isBare value then named.find? fun code => code.name = name else none
  | none => none

end CompletionCode

namespace OperationType

/-- The operation as JSON. -/
def toJson (operation : OperationType) : Json := .string operation.name

/-- The operation in a JSON value. -/
def ofJson? (json : Json) : Option OperationType :=
  match json.tagged? with
  | some (name, value) => if Json.isBare value then ofName? name else none
  | none => none

end OperationType

end DeviceEnablement
