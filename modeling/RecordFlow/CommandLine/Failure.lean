import RecordFlow.Config
import RecordFlow.Pipeline

/-! The text of a failure: the outermost error first, then its causes, numbered if there are several. -/

namespace RecordFlow.CommandLine

structure Failure where
  message : String
  causes : List String := []
  deriving DecidableEq, Repr

namespace Failure

def during (failure : Failure) (message : String) : Failure :=
  ⟨message, failure.message :: failure.causes⟩

def ofScript (error : Script.Error) : Failure := ⟨error.message, []⟩

def ofConfig (error : Config.Error) : Failure := ⟨error.message, error.source?.toList⟩

def ofOperation (error : Operation.Error) : Failure := ⟨error.message, error.source?.toList⟩

def hanging (indent : Nat) (text : String) : String :=
  String.ofList (text.toList.flatMap fun c =>
    if c = '\n' then '\n' :: List.replicate indent ' ' else [c])

def numbered (n : Nat) : List String → String
  | [] => ""
  | cause :: rest =>
    let label := toString n
    String.ofList (List.replicate (5 - label.length) ' ') ++ label ++ ": " ++ hanging 7 cause ++
      "\n" ++ numbered (n + 1) rest

def text (failure : Failure) : String :=
  "Error: " ++ failure.message ++ "\n" ++
    match failure.causes with
    | [] => ""
    | [cause] => "\nCaused by:\n    " ++ hanging 4 cause ++ "\n"
    | causes => "\nCaused by:\n" ++ numbered 0 causes

end Failure

end RecordFlow.CommandLine
