/-
  JSON values.

  A number is an integer when it is written without a fraction and without an exponent, is not
  `-0`, and fits in 64 bits, signed or unsigned; every other number is kept as it is written and
  has no integer value.  The members of an object that is read are in the order of their names by
  code point, each name once; those of an object that is only written are in the order of writing.
-/

namespace DeviceEnablement

namespace Json

/-- A JSON number. -/
inductive Number
  | integer (value : Int)
  /-- A number with a fraction or an exponent, or out of the range of 64 bits. -/
  | decimal (literal : String)
  deriving DecidableEq

/-- The least integer that fits in 64 bits with a sign. -/
def minSigned : Int := -9223372036854775808

/-- The greatest integer that fits in 64 bits with a sign. -/
def maxSigned : Int := 9223372036854775807

/-- The greatest integer that fits in 64 bits without a sign. -/
def maxUnsigned : Int := 18446744073709551615

end Json

/-- A JSON value. -/
inductive Json
  | null
  | bool (value : Bool)
  | number (value : Json.Number)
  | string (text : String)
  | array (items : List Json)
  | object (members : List (String × Json))

namespace Json

/-- An integer. -/
def ofInt (value : Int) : Json := .number (.integer value)

/-- A natural number. -/
def ofNat (value : Nat) : Json := .number (.integer value)

/-! ## Objects -/

/-- Puts a member among members that stand in the order of their names; a member with the same
    name is replaced. -/
def insertMember {α : Type} (name : String) (value : α) :
    List (String × α) → List (String × α)
  | [] => [(name, value)]
  | (other, old) :: rest =>
    if name < other then (name, value) :: (other, old) :: rest
    else if name = other then (name, value) :: rest
    else (other, old) :: insertMember name value rest

/-- Members in the order of their names; of members with one name the last one stays. -/
def sortMembers {α : Type} (members : List (String × α)) : List (String × α) :=
  members.foldl (fun sorted (name, value) => insertMember name value sorted) []

/-- The object with these members; of members with one name the last one stays. -/
def ofMembers (members : List (String × Json)) : Json := .object (sortMembers members)

/-- The value of a member of an object. -/
def get? (json : Json) (name : String) : Option Json :=
  match json with
  | .object members => (members.find? (fun member => member.1 = name)).map (·.2)
  | _ => none

/-! ## Leaves -/

/-- The text of a string. -/
def string? : Json → Option String
  | .string text => some text
  | _ => none

/-- The value of an integer. -/
def int? : Json → Option Int
  | .number (.integer value) => some value
  | _ => none

/-- The value of an integer that is not negative and at most `max`. -/
def natUpTo? (max : Nat) (json : Json) : Option Nat :=
  match json.int? with
  | some value => if 0 ≤ value ∧ value ≤ max then some value.toNat else none
  | none => none

/-- The items of an array. -/
def array? : Json → Option (List Json)
  | .array items => some items
  | _ => none

end Json

end DeviceEnablement
