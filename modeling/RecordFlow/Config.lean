import RecordFlow.Json.Reader
import RecordFlow.Script.Compile
import RecordFlow.Toml.Reader

/-! Configurations, written in JSON or TOML: a script or a list of descriptors. -/

namespace RecordFlow

structure Config where
  script : Option String := none
  transforms : List Descriptor := []
  deriving Repr

namespace Config

inductive Flaw where
  | syntaxError
  | wrongShape
  deriving DecidableEq, Repr

inductive Error where
  | unreadable (path reason : String)
  | json (flaw : Flaw)
  | toml (flaw : Flaw)
  | script (error : Script.Error)
  | empty
  | ambiguous
  deriving DecidableEq, Repr

/-- What a reader of JSON or TOML says itself is left out after the colon. -/
def Error.message : Error → String
  | .unreadable path reason => "failed to read " ++ path ++ ": " ++ reason
  | .json _ => "invalid JSON configuration: "
  | .toml _ => "invalid TOML configuration: "
  | .script error => "configuration script does not compile: " ++ error.message
  | .empty => "configuration defines neither 'script' nor 'transforms'"
  | .ambiguous => "configuration defines both 'script' and 'transforms'"

def Error.source? : Error → Option String
  | .unreadable _ reason => some reason
  | .json _ | .toml _ => some ""
  | .script error => some error.message
  | .empty | .ambiguous => none

def ofParts? (strict : Bool) (script transforms : Option Node) : Option Config := do
  let script ← Descriptor.optional Descriptor.textOf? none script
  let transforms ← Descriptor.optional (Descriptor.listOf? strict) [] transforms
  return { script, transforms }

/-- Reads a configuration: an object with known members among others, or a list of the parts in
order. `strict` refuses lists that are too long. -/
def ofNode? (strict : Bool) : Node → Option Config
  | .object members => do
    guard (Descriptor.othersPass ["script", "transforms"] members)
    ofParts? strict (← Descriptor.member? "script" members)
      (← Descriptor.member? "transforms" members)
  | .array parts =>
    if strict && 2 < parts.length then none else ofParts? strict parts[0]? parts[1]?
  | _ => none

def ofJsonText (text : String) : Except Error Config :=
  match Json.node? text with
  | none => .error (.json .syntaxError)
  | some node => (ofNode? true node).elim (.error (.json .wrongShape)) .ok

def ofTomlText (text : String) : Except Error Config :=
  match Toml.node? text with
  | none => .error (.toml .syntaxError)
  | some node => (ofNode? false node).elim (.error (.toml .wrongShape)) .ok

def toJson (config : Config) : Json :=
  .object ((config.script.toList.map fun text => ("script", Json.string text)) ++
    if config.transforms.isEmpty then []
    else [("transforms", Descriptor.listToJson config.transforms)])

def descriptors (config : Config) : Except Error (List Descriptor) :=
  match config.script, config.transforms with
  | some _, _ :: _ => .error .ambiguous
  | some text, [] => (Script.compile text).mapError .script
  | none, [] => .error .empty
  | none, transforms => .ok transforms

def fileName (path : List Char) : List Char :=
  let path := (path.reverse.dropWhile (· == '/')).reverse
  (path.reverse.takeWhile (· != '/')).reverse

def extension? (path : List Char) : Option (List Char) :=
  let name := fileName path
  let after := (name.reverse.takeWhile (· != '.')).reverse
  if after.length + 1 < name.length then some after else none

def namesToml (path : String) : Bool :=
  (extension? path.toList).any fun extension => extension.map Char.toLower = "toml".toList

def ofFile (path text : String) : Except Error Config :=
  if namesToml path then ofTomlText text else ofJsonText text

end Config

end RecordFlow
