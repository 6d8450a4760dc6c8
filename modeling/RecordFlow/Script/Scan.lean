import RecordFlow.Script.Fault
import RecordFlow.Text.Pieces

/-!
The scan says how each character of an argument text stands. A quote opens only outside parentheses; inside it a
backslash makes the next character literal.
-/

namespace RecordFlow.Script

open Text

inductive Mark where
  | quoted
  | nested
  | close
  | plain
  deriving DecidableEq, Repr

/-- The scan between two characters: outside quotes at a depth of parentheses, or inside a quote. -/
inductive Scan where
  | outside (depth : Nat)
  | inside (quote : Char) (escaped : Bool)
  deriving DecidableEq, Repr

def isQuote (c : Char) : Bool := c == '"' || c == '\''

namespace Scan

def start : Scan := outside 0

/-- Takes one character: how it stands, and the scan after it. -/
def step : Scan → Char → Mark × Scan
  | inside quote true, _ => (.quoted, inside quote false)
  | inside quote false, c =>
    if c = '\\' then (.quoted, inside quote true)
    else if c = quote then (.quoted, outside 0)
    else (.quoted, inside quote false)
  | outside 0, c =>
    if isQuote c then (.quoted, inside c false)
    else if c = '(' then (.nested, outside 1)
    else if c = ')' then (.close, outside 0)
    else (.plain, outside 0)
  | outside (depth + 1), c =>
    if c = '(' then (.nested, outside (depth + 2))
    else if c = ')' then (.nested, outside depth)
    else (.nested, outside (depth + 1))

def after (scan : Scan) : List Char → Scan
  | [] => scan
  | c :: rest => (scan.step c).2.after rest

def marks (scan : Scan) : List Char → List Mark
  | [] => []
  | c :: rest => (scan.step c).1 :: (scan.step c).2.marks rest

/-- What stands before and after the first character that stands as `mark` and satisfies `p`. -/
def splitFirst? (mark : Mark) (p : Char → Bool) (scan : Scan) :
    List Char → Option (List Char × List Char)
  | [] => none
  | c :: rest =>
    if (scan.step c).1 = mark ∧ p c then some ([], rest)
    else (splitFirst? mark p (scan.step c).2 rest).map fun (before, after) => (c :: before, after)

def stretches (scan : Scan) : List Char → List (List Char)
  | [] => [[]]
  | c :: rest =>
    let (mark, next) := scan.step c
    if mark = .plain ∧ c = ',' then [] :: next.stretches rest
    else consFirst c (next.stretches rest)

def finish (text : List Char) : Scan → Except Fault Unit
  | inside quote _ => .error (.unterminatedQuote quote (String.ofList text))
  | outside 0 => .ok ()
  | outside (_ + 1) => .error (.unbalancedParens (String.ofList text))

end Scan

/-- The arguments of a call: the trimmed stretches between the plain commas, without empty ones. -/
def splitArguments (text : List Char) : Except Fault (List (List Char)) := do
  if .close ∈ Scan.start.marks text then throw (.unbalancedParens (String.ofList text))
  Scan.finish text (Scan.start.after text)
  return ((Scan.start.stretches text).map trim).filter (· ≠ [])

def splitAtSign? (sign : Char) (text : List Char) : Option (List Char × List Char) :=
  Scan.start.splitFirst? .plain (· == sign) text

def isIdentifier : List Char → Bool
  | [] => false
  | c :: rest => (c.isAlpha || c == '_') && rest.all fun c => c.isAlphanum || c == '_'

def splitCall (text : List Char) : Except Fault (List Char × List Char) := do
  let text := trim text
  match Text.splitFirst? '(' text with
  | none => throw .invalidLine
  | some (before, body) =>
    let name := trim before
    if !isIdentifier name then throw (.invalidFunctionName (String.ofList name))
    match Scan.start.splitFirst? .close (fun _ => true) body with
    | none =>
      Scan.finish text (Scan.start.after body)
      throw (.unbalancedParens (String.ofList text))
    | some (arguments, after) =>
      let rest := trim after
      if rest ≠ [] then throw (.trailingText (String.ofList rest))
      return (name, arguments)

/-- The text has the outline of a call: it starts with no quote, has an opening parenthesis and ends
in a closing one. -/
def looksLikeCall (text : List Char) : Bool :=
  !(text.head?.any isQuote) && text.contains '(' && text.getLast? == some ')'

end RecordFlow.Script
