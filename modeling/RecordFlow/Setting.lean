import RecordFlow.Binary64.Rounding
import RecordFlow.Json.Printer
import RecordFlow.Node
import RecordFlow.Text.Numeral

/-!
What an operation is configured with: all that a tree can hold, but a whole number beyond a signed 64-bit word
becomes a double.
-/

namespace RecordFlow

inductive Setting where
  | null
  | bool (value : Bool)
  | integer (value : Int64)
  | float (value : Binary64)
  | string (value : String)
  | array (items : List Setting)
  | object (fields : List (String × Setting))
  deriving Repr, Inhabited

namespace Setting

def string? : Setting → Option String
  | string text => some text
  | _ => none

mutual

def toJson : Setting → Json
  | null => .null
  | bool b => .bool b
  | integer n => .ofInt n.toInt
  | float x => if x.isFinite then .number (.float x) else .null
  | string s => .string s
  | array items => .array (toItems items)
  | object fields => .object (toFields fields)

def toItems : List Setting → List Json
  | [] => []
  | item :: rest => toJson item :: toItems rest

def toFields : List (String × Setting) → List (String × Json)
  | [] => []
  | (key, value) :: rest => (key, toJson value) :: toFields rest

end

/-- A whole number, as a double if it does not fit in a signed 64-bit word. -/
def ofInt (n : Int) : Setting :=
  if Text.fitsInt64 n then integer (Int64.ofInt n) else float (.ofInt n)

mutual

/-- The setting a node stands for; the last member of a name wins. -/
def ofNode? : Node → Option Setting
  | .invalid => none
  | .refused => none
  | .null => some null
  | .bool b => some (bool b)
  | .number (.integer n) => some (ofInt n)
  | .number (.float x) => some (float x)
  | .string s => some (string s)
  | .array items => (ofItems? items).map array
  | .object members => (ofMembers? members).map fun fields => object (Fields.ofList fields)

def ofItems? : List Node → Option (List Setting)
  | [] => some []
  | item :: rest =>
    match ofNode? item, ofItems? rest with
    | some item, some rest => some (item :: rest)
    | _, _ => none

def ofMembers? : List (String × Node) → Option (List (String × Setting))
  | [] => some []
  | (key, value) :: rest =>
    match ofNode? value, ofMembers? rest with
    | some value, some rest => some ((key, value) :: rest)
    | _, _ => none

end

def ofJson? (tree : Json) : Option Setting := ofNode? (Node.ofJson tree)

/-- In messages a double never has an exponent nor a zero after the point, and of two equally near
decimals the larger one is taken. -/
def floatStyle : Binary64.Style where
  positional _ := true
  pointZero := false
  tie := .up
  nan := "NaN"
  infinity := "inf"

def display : Setting → String
  | null => "(null)"
  | bool b => if b then "true" else "false"
  | integer n => toString n.toInt
  | float x => floatStyle.text x
  | string s => s
  | setting => setting.toJson.compact

end Setting

end RecordFlow
