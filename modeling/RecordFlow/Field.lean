import RecordFlow.Binary64.Reading
import RecordFlow.Json.Printer
import RecordFlow.Text.Pieces

/-!
What a look-up in a record found, with its bytes and its reading as a value of a simple type. A tree without a
meaning at a type is read as the zero of that type.
-/

namespace RecordFlow.Json

def ofBytes (bytes : ByteArray) : Json :=
  match String.fromUTF8? bytes with
  | some text => string text
  | none => array (bytes.toList.map fun b => ofInt b.toNat)

def byte? : Json → Option UInt8
  | number (.integer n) => if 0 ≤ n ∧ n < 256 then some (UInt8.ofNat n.toNat) else none
  | _ => none

/-- The bytes a tree stands for: none for null, the UTF-8 form of a string, the numbers of an array
of bytes, and the compact text of any other tree. -/
def toBytes (tree : Json) : ByteArray :=
  match tree with
  | null => ByteArray.empty
  | string text => text.toUTF8
  | array items =>
    match items.mapM byte? with
    | some bytes => ⟨bytes.toArray⟩
    | none => (compact tree).toUTF8
  | _ => (compact tree).toUTF8

end RecordFlow.Json

namespace RecordFlow

/-- The outcome of a look-up: the tree found, or null if there is none. -/
structure Field where
  value : Json
  found : Bool

namespace Field

def ofTree (tree : Json) : Field := ⟨tree, true⟩

def missing : Field := ⟨.null, false⟩

def isPresent (field : Field) : Bool := field.found && !field.value.isNull

/-- A string as it is, null as nothing, any other tree as compact text. -/
def text (field : Field) : String :=
  match field.value with
  | .null => ""
  | .string s => s
  | tree => tree.compact

def bytes (field : Field) : ByteArray := field.value.toBytes

def numberToFloat : Json.Number → Binary64
  | .integer n => .ofInt n
  | .float x => x

/-- The field as a signed 64-bit number; numbers out of range go to the nearer end. -/
def toInt64 (field : Field) : Int :=
  match field.value with
  | .number (.integer n) => max Text.minInt64 (min Text.maxInt64 n)
  | .number (.float x) => x.clampTruncate Text.minInt64 Text.maxInt64
  | .string s => (Text.int64? (Text.trim s.toList)).getD 0
  | _ => 0

/-- The field as an unsigned 64-bit number; negative numbers are read as zero. -/
def toWord64 (field : Field) : Nat :=
  match field.value with
  | .number (.integer n) => n.toNat
  | .number (.float x) => (x.clampTruncate 0 (Text.wordSize - 1)).toNat
  | .string s => (Text.word64? (Text.trim s.toList)).getD 0
  | _ => 0

def toFloat (field : Field) : Binary64 :=
  match field.value with
  | .number n => numberToFloat n
  | .string s => (Binary64.ofText? (Text.trim s.toList)).getD (.zero false)
  | _ => .zero false

/-- The field as a truth value: itself, the strings `true` and `1`, or a number other than zero. -/
def toBool (field : Field) : Bool :=
  match field.value with
  | .bool b => b
  | .string s => s == "true" || s == "1"
  | .number n => !(numberToFloat n).isZero
  | _ => false

def items (field : Field) : List Field :=
  match field.value with
  | .array items => items.map ofTree
  | _ => []

def entries (field : Field) : List (String × Field) :=
  match field.value with
  | .object fields => fields.map fun (key, value) => (key, ofTree value)
  | _ => []

end Field

end RecordFlow
