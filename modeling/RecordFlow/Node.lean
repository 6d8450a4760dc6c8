import RecordFlow.Json.Basic

/-!
Values as they stand in a document: members keep their order and may repeat a name, and parts that no tree can
hold are marked, so that a reader may still step over them.
-/

namespace RecordFlow

inductive Node where
  /-- A number out of range, a text that is not Unicode, or a container nested too deep. It may be
  stepped over. -/
  | invalid
  /-- A number without any value. It may only be left unseen. -/
  | refused
  | null
  | bool (value : Bool)
  | number (value : Json.Number)
  | string (value : String)
  | array (items : List Node)
  | object (members : List (String × Node))
  deriving Repr, Inhabited

namespace Node

mutual

def ofJson : Json → Node
  | .null => null
  | .bool b => bool b
  | .number n => number n
  | .string s => string s
  | .array items => array (ofItems items)
  | .object fields => object (ofFields fields)

def ofItems : List Json → List Node
  | [] => []
  | item :: rest => ofJson item :: ofItems rest

def ofFields : List (String × Json) → List (String × Node)
  | [] => []
  | (key, value) :: rest => (key, ofJson value) :: ofFields rest

end

mutual

def isPassable : Node → Bool
  | refused => false
  | array items => arePassable items
  | object members => passableMembers members
  | _ => true

def arePassable : List Node → Bool
  | [] => true
  | item :: rest => isPassable item && arePassable rest

def passableMembers : List (String × Node) → Bool
  | [] => true
  | (_, value) :: rest => isPassable value && passableMembers rest

end

mutual

/-- The tree of a node without marked parts; the last member of a name wins. -/
def toJson? : Node → Option Json
  | invalid => none
  | refused => none
  | null => some .null
  | bool b => some (.bool b)
  | number n => some (.number n)
  | string s => some (.string s)
  | array items => (toItems? [] items).map .array
  | object members => (toFields? [] members).map .object

def toItems? (done : List Json) : List Node → Option (List Json)
  | [] => some done.reverse
  | item :: rest =>
    match toJson? item with
    | some item => toItems? (item :: done) rest
    | none => none

def toFields? (done : List (String × Json)) : List (String × Node) → Option (List (String × Json))
  | [] => some done
  | (key, value) :: rest =>
    match toJson? value with
    | some value => toFields? (Fields.insert key value done) rest
    | none => none

end

end Node

end RecordFlow
