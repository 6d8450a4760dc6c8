import RecordFlow.Base64
import RecordFlow.Path.Basic

/-! Why an operation cannot be built or fails on a record, under the operation's configured identifier. -/

namespace RecordFlow.Operation

inductive Misuse where
  | assignmentPaths
  | deletePath
  /-- The separator of a split is no text or an empty one; it is given as shown. -/
  | separator (shown : String)
  deriving DecidableEq, Repr

def Misuse.message : Misuse → String
  | .assignmentPaths => "assignment needs both a source and a target path"
  | .deletePath => "a path to delete is required"
  | .separator shown => "separator must be a non-empty string, got " ++ shown

inductive BadInput where
  | base64 (error : Base64.Error)
  | gzip
  | host (message : String)
  deriving DecidableEq, Repr

/-- What a reader of gzip says itself is left out after the colon. -/
def BadInput.message : BadInput → String
  | .base64 error => "invalid base64: " ++ error.message
  | .gzip => "invalid gzip data: "
  | .host message => message

inductive Cause where
  | unsupported (kind : String)
  | misuse (reason : Misuse)
  | path (error : Path.Error)
  | input (reason : BadInput)
  | output (reason : String)
  deriving DecidableEq, Repr

def Cause.message : Cause → String
  | .unsupported kind => "no implementation for operation '" ++ kind ++ "'"
  | .misuse reason => "invalid configuration: " ++ reason.message
  | .path error => error.message
  | .input reason => reason.message
  | .output reason => reason

structure Error where
  id : String
  cause : Cause
  deriving DecidableEq, Repr

def Error.message (error : Error) : String := error.id ++ ": " ++ error.cause.message

def Error.source? (error : Error) : Option String :=
  match error.cause with
  | .path path => some path.message
  | .output reason => some reason
  | _ => none

end RecordFlow.Operation
