import RecordFlow.Binary64.Style
import RecordFlow.Json.Basic

/-! The compact text of a tree, and the text indented by two spaces. -/

namespace RecordFlow.Json

/-- Numbers from `10 ^ -5` to below `10 ^ 16` are written without exponent, whole ones with `.0`,
and of two equally near decimals the even one is taken; JSON has no text but `null` for the rest. -/
def floatStyle : Binary64.Style where
  positional leading := -5 ≤ leading && leading ≤ 15
  pointZero := true
  tie := .even
  nan := "null"
  infinity := "null"

def Number.text : Number → String
  | .integer n => toString n
  | .float x => if x.isFinite then floatStyle.text x else "null"

def escape (c : Char) : List Char :=
  match c with
  | '"' => ['\\', '"']
  | '\\' => ['\\', '\\']
  | '\n' => ['\\', 'n']
  | '\r' => ['\\', 'r']
  | '\t' => ['\\', 't']
  | '\x08' => ['\\', 'b']
  | '\x0c' => ['\\', 'f']
  | c =>
    if c.toNat < 0x20 then
      ['\\', 'u', '0', '0', Nat.digitChar (c.toNat / 16), Nat.digitChar (c.toNat % 16)]
    else [c]

def quoted (text : String) : String :=
  String.ofList ('"' :: (text.toList.flatMap escape ++ ['"']))

mutual

def compact : Json → String
  | null => "null"
  | bool b => if b then "true" else "false"
  | number n => n.text
  | string s => quoted s
  | array items => "[" ++ ",".intercalate (compactItems [] items) ++ "]"
  | object fields => "\x7b" ++ ",".intercalate (compactFields [] fields) ++ "\x7d"

def compactItems (done : List String) : List Json → List String
  | [] => done.reverse
  | item :: rest => compactItems (compact item :: done) rest

def compactFields (done : List String) : List (String × Json) → List String
  | [] => done.reverse
  | (key, value) :: rest => compactFields ((quoted key ++ ":" ++ compact value) :: done) rest

end

def newline (level : Nat) : String := String.ofList ('\n' :: List.replicate (2 * level) ' ')

/-- Parts of a container on lines of their own; an empty container stays on one line. -/
def block (opening closing : String) (level : Nat) (parts : List String) : String :=
  if parts.isEmpty then opening ++ closing
  else
    opening ++ newline (level + 1) ++ (("," ++ newline (level + 1)).intercalate parts) ++
      newline level ++ closing

mutual

def indented (level : Nat) : Json → String
  | array items => block "[" "]" level (indentedItems (level + 1) items)
  | object fields => block "\x7b" "\x7d" level (indentedFields (level + 1) fields)
  | null => "null"
  | bool b => if b then "true" else "false"
  | number n => n.text
  | string s => quoted s

def indentedItems (level : Nat) : List Json → List String
  | [] => []
  | item :: rest => indented level item :: indentedItems level rest

def indentedFields (level : Nat) : List (String × Json) → List String
  | [] => []
  | (key, value) :: rest =>
    (quoted key ++ ": " ++ indented level value) :: indentedFields level rest

end

end RecordFlow.Json
