/-! JSON values. -/

namespace LanguageServer

/-- A number of a JSON text. An integer fits in 64 bits, with or without a sign; every other
number is a double, given by its bits. -/
inductive Number
  | integer (value : Int)
  | float (bits : UInt64)
  deriving DecidableEq, Repr

/-- A JSON value. No key stands twice in an object that was read from a text. -/
inductive Json
  | null
  | bool (value : Bool)
  | number (value : Number)
  | string (value : String)
  | array (items : List Json)
  | object (members : List (String × Json))
  deriving Repr, BEq, Inhabited

namespace Json

def int (value : Int) : Json :=
  .number (.integer value)

def nat (value : Nat) : Json :=
  .number (.integer value)

def member? (key : String) : Json → Option Json
  | .object members => (members.find? (·.1 == key)).map (·.2)
  | _ => none

/-- Puts a member into a list of members; a value that the key had before is lost. -/
def put (key : String) (value : Json) : List (String × Json) → List (String × Json)
  | [] => [(key, value)]
  | (other, old) :: rest =>
    if other = key then (key, value) :: rest else (other, old) :: put key value rest

/-- An object of the members that are there. -/
def ofMembers (members : List (String × Option Json)) : Json :=
  .object (members.filterMap fun (key, value) => value.map (key, ·))

end Json

end LanguageServer
