import RecordFlow.Kind
import RecordFlow.Setting
import RecordFlow.Text.Quotation

/-! What one operation does, how it is configured, where it reads and writes, and the written form of that. -/

namespace RecordFlow

structure Descriptor where
  kind : Kind
  settings : List (String × Setting) := []
  /-- The path the operation reads from; the whole payload if absent. -/
  source : Option String := none
  /-- The path the operation writes to; the payload is replaced if absent. -/
  target : Option String := none
  deriving Repr

namespace Descriptor

def setting? (descriptor : Descriptor) (key : String) : Option Setting :=
  Fields.get? key descriptor.settings

def settingString? (descriptor : Descriptor) (key : String) : Option String :=
  (descriptor.setting? key).bind Setting.string?

def id (descriptor : Descriptor) : String :=
  (descriptor.settingString? "id").getD descriptor.kind.name

def describe (descriptor : Descriptor) : String :=
  let source := descriptor.source.toList.map ("source=" ++ ·)
  let settings := descriptor.settings.map fun (key, value) =>
    key ++ "=" ++ Text.quotation value.display
  let call := descriptor.kind.name ++ "(" ++ ", ".intercalate (source ++ settings) ++ ")"
  match descriptor.target with
  | some target => target ++ " = " ++ call
  | none => call

/-- The entries of the written form: kind, settings if there are any, source and target if set. -/
def entries (descriptor : Descriptor) : List (String × Json) :=
  [("type", Json.string descriptor.kind.name)] ++
    (if descriptor.settings.isEmpty then []
      else [("settings", .object (Setting.toFields descriptor.settings))]) ++
    (descriptor.source.toList.map fun s => ("source", Json.string s)) ++
    (descriptor.target.toList.map fun t => ("target", Json.string t))

def toJson (descriptor : Descriptor) : Json := .object (Fields.ofList descriptor.entries)

def kindOf? : Node → Option Kind
  | .string name => some (Kind.ofName name)
  | _ => none

def settingsOf? : Node → Option (List (String × Setting))
  | .object members => (Setting.ofMembers? members).map Fields.ofList
  | _ => none

def textOf? : Node → Option (Option String)
  | .null => some none
  | .string text => some (some text)
  | _ => none

/-- The value of the member with a name, if the name is not repeated. -/
def member? (name : String) (members : List (String × Node)) : Option (Option Node) :=
  match members.filter (·.1 = name) with
  | [] => some none
  | [(_, value)] => some (some value)
  | _ => none

/-- The members that are not known can be stepped over. -/
def othersPass (known : List String) (members : List (String × Node)) : Bool :=
  members.all fun (name, value) => known.contains name || value.isPassable

def optional {α : Type} (read : Node → Option α) (default : α) : Option Node → Option α
  | none => some default
  | some node => read node

/-- Reads a descriptor from its four parts, of which only the kind is required. -/
def ofParts? (kind settings source target : Option Node) : Option Descriptor := do
  let kind ← kindOf? (← kind)
  let settings ← optional settingsOf? [] settings
  let source ← optional textOf? none source
  let target ← optional textOf? none target
  return { kind, settings, source, target }

/-- Reads a descriptor: an object with known members among others, or a list of the parts in order.
`strict` refuses a list that is too long; otherwise what goes on after the parts is left unseen. -/
def ofNode? (strict : Bool) : Node → Option Descriptor
  | .object members => do
    guard (othersPass ["type", "settings", "source", "target"] members)
    ofParts? (← member? "type" members) (← member? "settings" members)
      (← member? "source" members) (← member? "target" members)
  | .array parts =>
    if strict && 4 < parts.length then none
    else ofParts? parts[0]? parts[1]? parts[2]? parts[3]?
  | _ => none

def listOf? (strict : Bool) : Node → Option (List Descriptor)
  | .array items => items.mapM (ofNode? strict)
  | _ => none

def listToJson (descriptors : List Descriptor) : Json := .array (descriptors.map toJson)

def listOfJson? (tree : Json) : Option (List Descriptor) := listOf? true (Node.ofJson tree)

end Descriptor

end RecordFlow
