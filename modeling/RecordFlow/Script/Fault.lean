/-! What can be wrong with a script line, and the error that reports it with its line. -/

namespace RecordFlow.Script

def maxNesting : Nat := 32

inductive Fault where
  | invalidLine
  | incompleteAssignment
  | unterminatedQuote (quote : Char) (text : String)
  | unbalancedParens (text : String)
  | invalidFunctionName (name : String)
  | trailingText (text : String)
  | invalidNamedArgument (argument : String)
  | nestedCallNotAllowed (key : String)
  | invalidFirstPositional (argument : String)
  | positionalNotAllowed (argument : String)
  | nestingTooDeep (limit : Nat)
  /-- The fault of a call that stands as an argument. -/
  | nestedCall (call : String) (fault : Fault)
  deriving DecidableEq, Repr

def Fault.message : Fault → String
  | .invalidLine => "line is neither an assignment nor a function call"
  | .incompleteAssignment => "assignment needs both a target and a source"
  | .unterminatedQuote quote text =>
    "unterminated " ++ String.singleton quote ++ " quote in '" ++ text ++ "'"
  | .unbalancedParens text => "unbalanced parentheses in '" ++ text ++ "'"
  | .invalidFunctionName name => "invalid function name '" ++ name ++ "'"
  | .trailingText text => "unexpected text after closing parenthesis: '" ++ text ++ "'"
  | .invalidNamedArgument argument => "invalid named argument '" ++ argument ++ "'"
  | .nestedCallNotAllowed key => "argument '" ++ key ++ "' cannot take a function call"
  | .invalidFirstPositional argument =>
    "first positional argument must be '$', '$.<field>' or a call, got '" ++ argument ++ "'"
  | .positionalNotAllowed argument =>
    "builtins take one positional argument, pass '" ++ argument ++ "' as a named argument"
  | .nestingTooDeep limit => "calls nested deeper than " ++ toString limit ++ " levels"
  | .nestedCall call fault => "in nested call '" ++ call ++ "': " ++ fault.message

/-- The fault of a call, seen from the line that holds it. Too deep a nesting is a fault of the
whole line. -/
def Fault.inNestedCall (call : List Char) : Fault → Fault
  | .nestingTooDeep limit => .nestingTooDeep limit
  | fault => .nestedCall (String.ofList call) fault

/-- A line that does not compile: its number from one, its text as written, and its fault. -/
structure Error where
  lineNumber : Nat
  line : String
  fault : Fault
  deriving DecidableEq, Repr

def Error.message (error : Error) : String :=
  "line " ++ toString error.lineNumber ++ ": " ++ error.fault.message ++ " in `" ++ error.line ++ "`"

end RecordFlow.Script
