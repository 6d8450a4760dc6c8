import RecordFlow.Text.Pieces

/-!
Paths: `$`, `$.user.name`, `meta.$.items.0`. A segment is not empty and holds no dot; blanks around a path are
ignored.
-/

namespace RecordFlow

inductive Path.Root where
  | payload
  | metadata
  deriving DecidableEq, Repr

def Path.Root.token : Path.Root → String
  | .payload => "$"
  | .metadata => "meta.$"

structure Path where
  root : Path.Root
  segments : List String
  deriving DecidableEq, Repr

namespace Path

def payload : Path := ⟨.payload, []⟩

def isRoot (path : Path) : Bool := path.segments.isEmpty

def child (path : Path) (segment : String) : Path := ⟨path.root, path.segments ++ [segment]⟩

def text (path : Path) : String :=
  path.root.token ++ String.join (path.segments.map ("." ++ ·))

/-- Why a path cannot be read or followed. Places are given as paths. -/
inductive Error where
  | invalidRoot (text : String)
  | emptySegment (text : String)
  | keyNotFound (key : String) (place : Path)
  | invalidIndex (index : String) (place : Path)
  | indexOutOfRange (index length : Nat) (place : Path)
  | indexTooLarge (index length : Nat) (place : Path)
  | notAContainer (kind : String) (place : Path)
  deriving DecidableEq, Repr

/-- The error only means that nothing lives at the path. -/
def Error.isAbsent : Error → Bool
  | .keyNotFound .. | .indexOutOfRange .. | .notAContainer .. => true
  | _ => false

def Error.message : Error → String
  | .invalidRoot text =>
    "invalid path '" ++ text ++ "': expected '$', 'meta.$', '$.<field>' or 'meta.$.<field>'"
  | .emptySegment text => "invalid path '" ++ text ++ "': contains an empty segment"
  | .keyNotFound key place => "key '" ++ key ++ "' not found at '" ++ place.text ++ "'"
  | .invalidIndex index place =>
    "invalid array index '" ++ index ++ "' at '" ++ place.text ++ "'"
  | .indexOutOfRange index length place =>
    "array index " ++ toString index ++ " out of range at '" ++ place.text ++ "' (length " ++
      toString length ++ ")"
  | .indexTooLarge index length place =>
    "array index " ++ toString index ++ " at '" ++ place.text ++
      "' is too far past the end (length " ++ toString length ++ ")"
  | .notAContainer kind place => "cannot descend into " ++ kind ++ " at '" ++ place.text ++ "'"

/-- Splits a trimmed text into its root and, after a dot, the text of the segments. -/
def splitRoot? : List Char → Option (Root × Option (List Char))
  | ['$'] => some (.payload, none)
  | '$' :: '.' :: rest => some (.payload, some rest)
  | ['m', 'e', 't', 'a', '.', '$'] => some (.metadata, none)
  | 'm' :: 'e' :: 't' :: 'a' :: '.' :: '$' :: '.' :: rest => some (.metadata, some rest)
  | _ => none

def parse (text : String) : Except Error Path :=
  let trimmed := Text.trim text.toList
  match splitRoot? trimmed with
  | none => .error (.invalidRoot (String.ofList trimmed))
  | some (root, none) => .ok ⟨root, []⟩
  | some (root, some rest) =>
    let segments := Text.piecesAt '.' rest
    if [] ∈ segments then .error (.emptySegment (String.ofList trimmed))
    else .ok ⟨root, segments.map String.ofList⟩

/-- The text is `$` or begins with `$.`, and so can be meant as a payload path. -/
def looksLikePayload (text : List Char) : Bool :=
  match text with
  | ['$'] => true
  | '$' :: '.' :: _ => true
  | _ => false

end Path

end RecordFlow
