import RecordFlow.Json.Literal
import RecordFlow.Node

/-!
A text is cut into tokens, which a machine with a stack of open containers takes one by one (RFC 8259). What no
tree can hold is no syntax error: it becomes an invalid node.
-/

namespace RecordFlow.Json

open Text

def depthLimit : Nat := 127

inductive Token where
  | openArray
  | closeArray
  | openObject
  | closeObject
  | comma
  | colon
  | null
  | bool (value : Bool)
  | number (value : Option Number)
  | string (value : Option String)
  deriving Repr

/-- One element of a string as written: a character, or a UTF-16 code unit given by its number. -/
inductive Unit16 where
  | char (c : Char)
  | code (n : Nat)

def hexDigit? (c : Char) : Option Nat :=
  if '0' ≤ c ∧ c ≤ '9' then some (c.toNat - 48)
  else if 'a' ≤ c ∧ c ≤ 'f' then some (c.toNat - 87)
  else if 'A' ≤ c ∧ c ≤ 'F' then some (c.toNat - 55)
  else none

def hexValue? (digits : List Char) : Option Nat :=
  digits.foldl (fun value c => do return (← value) * 16 + (← hexDigit? c)) (some 0)

def simpleEscape? : Char → Option Char
  | '"' => some '"'
  | '\\' => some '\\'
  | '/' => some '/'
  | 'b' => some '\x08'
  | 'f' => some '\x0c'
  | 'n' => some '\n'
  | 'r' => some '\r'
  | 't' => some '\t'
  | _ => none

/-- Reads the inside of a string up to its closing quote, and gives what follows the quote. -/
def stringBody? (units : List Unit16) : List Char → Option (List Unit16 × List Char)
  | [] => none
  | '"' :: rest => some (units.reverse, rest)
  | '\\' :: 'u' :: a :: b :: c :: d :: rest =>
    match hexValue? [a, b, c, d] with
    | some n => stringBody? (.code n :: units) rest
    | none => none
  | '\\' :: c :: rest =>
    match simpleEscape? c with
    | some c => stringBody? (.char c :: units) rest
    | none => none
  | c :: rest => if c.toNat < 0x20 then none else stringBody? (.char c :: units) rest

theorem length_stringBody {text rest : List Char} {units all : List Unit16}
    (h : stringBody? units text = some (all, rest)) : rest.length < text.length := by
  fun_induction stringBody? units text with
  | case1 => simp at h
  | case2 => simp at h; simp [h.2]
  | case3 _ _ _ _ _ _ _ _ ih => have := ih h; simp only [List.length_cons]; omega
  | case4 => simp at h
  | case5 _ _ _ _ _ _ ih => have := ih h; simp only [List.length_cons]; omega
  | case6 => simp at h
  | case7 => simp at h
  | case8 _ _ _ _ _ _ _ ih => have := ih h; simp only [List.length_cons]; omega

def unitsText? : List Unit16 → Option (List Char)
  | [] => some []
  | .char c :: rest => (unitsText? rest).map (c :: ·)
  | .code high :: .code low :: rest =>
    if 0xD800 ≤ high ∧ high ≤ 0xDBFF then
      if 0xDC00 ≤ low ∧ low ≤ 0xDFFF then
        (unitsText? rest).map
          (Char.ofNat (0x10000 + (high - 0xD800) * 0x400 + (low - 0xDC00)) :: ·)
      else none
    else if 0xDC00 ≤ high ∧ high ≤ 0xDFFF then none
    else (unitsText? (.code low :: rest)).map (Char.ofNat high :: ·)
  | .code n :: rest =>
    if 0xD800 ≤ n ∧ n ≤ 0xDFFF then none else (unitsText? rest).map (Char.ofNat n :: ·)

def isSpace (c : Char) : Bool := c == ' ' || c == '\t' || c == '\n' || c == '\r'

def isNumberChar (c : Char) : Bool :=
  c.isDigit || c == '-' || c == '+' || c == '.' || c == 'e' || c == 'E'

def punctuation? : Char → Option Token
  | '[' => some .openArray
  | ']' => some .closeArray
  | '\x7b' => some .openObject
  | '\x7d' => some .closeObject
  | ',' => some .comma
  | ':' => some .colon
  | _ => none

def word? (letters : List Char) : Option Token :=
  match String.ofList letters with
  | "null" => some .null
  | "true" => some (.bool true)
  | "false" => some (.bool false)
  | _ => none

def tokens? (found : List Token) (text : List Char) : Option (List Token) :=
  match text with
  | [] => some found.reverse
  | c :: rest =>
    if isSpace c then tokens? found rest
    else if c = '"' then
      match _h : stringBody? [] rest with
      | none => none
      | some (units, after) =>
        tokens? (.string ((unitsText? units).map String.ofList) :: found) after
    else if isNumberChar c then
      match Literal.ofText? (c :: rest.takeWhile isNumberChar) with
      | none => none
      | some literal => tokens? (.number literal.number? :: found) (rest.dropWhile isNumberChar)
    else if c.isAlpha then
      match word? (c :: rest.takeWhile Char.isAlpha) with
      | none => none
      | some token => tokens? (token :: found) (rest.dropWhile Char.isAlpha)
    else
      match punctuation? c with
      | none => none
      | some token => tokens? (token :: found) rest
termination_by text.length
decreasing_by
  · simp
  · have := length_stringBody _h; simp only [List.length_cons]; omega
  · have := (List.dropWhile_sublist isNumberChar (l := rest)).length_le; simp only [List.length_cons]; omega
  · have := (List.dropWhile_sublist Char.isAlpha (l := rest)).length_le; simp only [List.length_cons]; omega
  · simp

inductive Frame where
  | array (items : List Node)
  /-- `valid` is false once a name is not Unicode. -/
  | object (members : List (String × Node)) (name : String) (valid : Bool)

inductive Expect where
  | value
  | valueOrClose
  | nameOrClose
  | name
  | colon
  | commaOrClose
  | done
  deriving DecidableEq

structure Machine where
  expect : Expect
  stack : List Frame
  result : Node

namespace Machine

def put (node : Node) : List Frame → Machine
  | [] => ⟨.done, [], node⟩
  | .array items :: below => ⟨.commaOrClose, .array (node :: items) :: below, .null⟩
  | .object members name valid :: below =>
    ⟨.commaOrClose, .object ((name, node) :: members) name valid :: below, .null⟩

def within (below : List Frame) (node : Node) : Node :=
  if below.length < depthLimit then node else .invalid

def closeArray? : List Frame → Option Machine
  | .array items :: below => some (put (within below (.array items.reverse)) below)
  | _ => none

def closeObject? : List Frame → Option Machine
  | .object members _ valid :: below =>
    some (put (within below (if valid then .object members.reverse else .invalid)) below)
  | _ => none

def value? (stack : List Frame) : Token → Option Machine
  | .openArray => some ⟨.valueOrClose, .array [] :: stack, .null⟩
  | .openObject => some ⟨.nameOrClose, .object [] "" true :: stack, .null⟩
  | .null => some (put .null stack)
  | .bool b => some (put (.bool b) stack)
  | .number n => some (put ((n.map Node.number).getD .invalid) stack)
  | .string s => some (put ((s.map Node.string).getD .invalid) stack)
  | _ => none

def name? : List Frame → Token → Option Machine
  | .object members _ valid :: below, .string name =>
    some ⟨.colon, .object members (name.getD "") (valid && name.isSome) :: below, .null⟩
  | _, _ => none

def step? (machine : Machine) (token : Token) : Option Machine :=
  match machine.expect, token with
  | .value, token => value? machine.stack token
  | .valueOrClose, .closeArray => closeArray? machine.stack
  | .valueOrClose, token => value? machine.stack token
  | .nameOrClose, .closeObject => closeObject? machine.stack
  | .nameOrClose, token => name? machine.stack token
  | .name, token => name? machine.stack token
  | .colon, .colon => some ⟨.value, machine.stack, .null⟩
  | .commaOrClose, .closeArray => closeArray? machine.stack
  | .commaOrClose, .closeObject => closeObject? machine.stack
  | .commaOrClose, .comma =>
    match machine.stack with
    | .array items :: below => some ⟨.value, .array items :: below, .null⟩
    | .object members name valid :: below => some ⟨.name, .object members name valid :: below, .null⟩
    | [] => none
  | _, _ => none

end Machine

def node? (text : String) : Option Node := do
  let tokens ← tokens? [] text.toList
  let machine ← tokens.foldlM Machine.step? ⟨.value, [], .null⟩
  if machine.expect = .done then some machine.result else none

def ofText? (text : String) : Option Json := (node? text).bind Node.toJson?

end RecordFlow.Json
