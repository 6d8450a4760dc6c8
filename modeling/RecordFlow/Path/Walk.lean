import RecordFlow.Json.Basic
import RecordFlow.Path.Edit
import RecordFlow.Text.Numeral

/-!
Reading, storing and removing at a path. Storing creates missing objects but no arrays; removing an array element
leaves a null, so the others stay in place.
-/

namespace RecordFlow.Path

def maxPadding : Nat := 4096

def index? (segment : String) : Option Nat :=
  (Text.natural? segment.toList).filter (· < Text.wordSize)

/-- The index a segment denotes, or the error it makes on an array at `place`. -/
def indexAt (place : Path) (segment : String) : Except Error Nat :=
  match index? segment with
  | some i => .ok i
  | none => .error (.invalidIndex segment (place.child segment))

def childAt (place : Path) (segment : String) : Json → Except Error Json
  | .object fields =>
    match Fields.get? segment fields with
    | some child => .ok child
    | none => .error (.keyNotFound segment (place.child segment))
  | .array items => do
    let i ← indexAt place segment
    match items[i]? with
    | some child => .ok child
    | none => .error (.indexOutOfRange i items.length (place.child segment))
  | other => .error (.notAContainer other.kindName place)

def resolveFrom (place : Path) : List String → Json → Except Error Json
  | [], tree => .ok tree
  | segment :: rest, tree => do
    let child ← childAt place segment tree
    resolveFrom (place.child segment) rest child

def resolve (path : Path) (tree : Json) : Except Error Json :=
  resolveFrom ⟨path.root, []⟩ path.segments tree

/-- An array with an element stored at an index, padded with nulls if the index is past the end. -/
def storeItem (items : List Json) (i : Nat) (value : Json) : List Json :=
  (items ++ List.replicate (i + 1 - items.length) Json.null).set i value

/-- Stores a value below a tree that lives at `place`. A null becomes an empty object on the way, and
a missing child of an object is made as one. -/
def writeFrom (place : Path) (value : Json) : List String → Json → Edit Json
  | [], _ => .done value
  | segment :: rest, .null =>
    (writeFrom (place.child segment) value rest (.object [])).map fun child =>
      .object [(segment, child)]
  | segment :: rest, .object fields =>
    let old := (Fields.get? segment fields).getD (.object [])
    (writeFrom (place.child segment) value rest old).map fun child =>
      .object (Fields.insert segment child fields)
  | [segment], .array items =>
    match indexAt place segment with
    | .error error => .stopped (.array items) error
    | .ok i =>
      if i < items.length ∨ (i + 1 < Text.wordSize ∧ i + 1 - items.length ≤ maxPadding) then
        .done (.array (storeItem items i value))
      else .stopped (.array items) (.indexTooLarge i items.length (place.child segment))
  | segment :: rest, .array items =>
    match indexAt place segment with
    | .error error => .stopped (.array items) error
    | .ok i =>
      match items[i]? with
      | none => .stopped (.array items) (.indexOutOfRange i items.length (place.child segment))
      | some old =>
        (writeFrom (place.child segment) value rest old).map fun child => .array (items.set i child)
  | _ :: _, other => .stopped other (.notAContainer other.kindName place)

def write (path : Path) (value tree : Json) : Edit Json :=
  writeFrom ⟨path.root, []⟩ value path.segments tree

/-- Removes what segments lead to from a tree that lives at `place`. -/
def eraseFrom (place : Path) : List String → Json → Edit Json
  | [], _ => .done (.object [])
  | [segment], .object fields => .done (.object (Fields.erase segment fields))
  | [segment], .array items =>
    match indexAt place segment with
    | .error error => .stopped (.array items) error
    | .ok i => .done (.array (items.set i .null))
  | segment :: rest, .object fields =>
    match Fields.get? segment fields with
    | none => .done (.object fields)
    | some old =>
      (eraseFrom (place.child segment) rest old).map fun child =>
        .object (Fields.replace segment child fields)
  | segment :: rest, .array items =>
    match indexAt place segment with
    | .error error => .stopped (.array items) error
    | .ok i =>
      match items[i]? with
      | none => .done (.array items)
      | some old =>
        (eraseFrom (place.child segment) rest old).map fun child => .array (items.set i child)
  | _ :: _, other => .done other

def erase (path : Path) (tree : Json) : Edit Json :=
  eraseFrom ⟨path.root, []⟩ path.segments tree

end RecordFlow.Path
