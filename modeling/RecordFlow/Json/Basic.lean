import RecordFlow.Binary64.Basic
import RecordFlow.Fields

/-! JSON trees. An object is a map in key order. -/

namespace RecordFlow

/-- A JSON number. Whole numbers are those of a signed or unsigned 64-bit word. -/
inductive Json.Number where
  | integer (value : Int)
  | float (value : Binary64)
  deriving DecidableEq, Repr

inductive Json where
  | null
  | bool (value : Bool)
  | number (value : Json.Number)
  | string (value : String)
  | array (items : List Json)
  | object (fields : List (String × Json))
  deriving Repr, Inhabited

namespace Json

def kindName : Json → String
  | null => "null"
  | bool _ => "boolean"
  | number _ => "number"
  | string _ => "string"
  | array _ => "array"
  | object _ => "object"

def isNull : Json → Bool
  | null => true
  | _ => false

def isArray : Json → Bool
  | array _ => true
  | _ => false

def ofInt (n : Int) : Json := number (.integer n)

end Json

end RecordFlow
