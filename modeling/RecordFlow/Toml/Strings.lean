import RecordFlow.Json.Reader

/-! The four kinds of TOML strings, and keys. A reader gives what it read and the text that follows. -/

namespace RecordFlow.Toml

def isTextChar (c : Char) : Bool := c == '\t' || (0x20 ≤ c.toNat && c.toNat != 0x7F)

def isSpace (c : Char) : Bool := c == ' ' || c == '\t'

def skipSpace (text : List Char) : List Char := text.dropWhile isSpace

def hexChar? (digits : List Char) : Option Char := do
  let n ← Json.hexValue? digits
  if n < 0xD800 ∨ (0xDFFF < n ∧ n < 0x110000) then return Char.ofNat n else none

def simpleEscape? : Char → Option Char
  | 'b' => some '\x08'
  | 't' => some '\t'
  | 'n' => some '\n'
  | 'f' => some '\x0c'
  | 'r' => some '\r'
  | 'e' => some '\x1b'
  | '"' => some '"'
  | '\\' => some '\\'
  | _ => none

/-- Reads the rest of a basic string on one line; `done` is what was read, in reverse. -/
def basicBody? (done : List Char) : List Char → Option (List Char × List Char)
  | '"' :: rest => some (done.reverse, rest)
  | '\\' :: 'x' :: a :: b :: rest =>
    match hexChar? [a, b] with
    | some c => basicBody? (c :: done) rest
    | none => none
  | '\\' :: 'u' :: a :: b :: c :: d :: rest =>
    match hexChar? [a, b, c, d] with
    | some c => basicBody? (c :: done) rest
    | none => none
  | '\\' :: 'U' :: a :: b :: c :: d :: e :: f :: g :: h :: rest =>
    match hexChar? [a, b, c, d, e, f, g, h] with
    | some c => basicBody? (c :: done) rest
    | none => none
  | '\\' :: c :: rest =>
    match simpleEscape? c with
    | some c => basicBody? (c :: done) rest
    | none => none
  | c :: rest => if isTextChar c then basicBody? (c :: done) rest else none
  | [] => none

def startsLine : List Char → Bool
  | '\n' :: _ => true
  | '\r' :: '\n' :: _ => true
  | _ => false

/-- Reads the rest of a basic string over several lines. While `folding`, after a backslash at the
end of a line, blanks and line breaks are skipped. Up to two quotes may stand before the end. -/
def multilineBody? (folding : Bool) (done : List Char) : List Char → Option (List Char × List Char)
  | '"' :: '"' :: '"' :: '"' :: '"' :: rest => some (('"' :: '"' :: done).reverse, rest)
  | '"' :: '"' :: '"' :: '"' :: rest => some (('"' :: done).reverse, rest)
  | '"' :: '"' :: '"' :: rest => some (done.reverse, rest)
  | '\n' :: rest => multilineBody? folding (if folding then done else '\n' :: done) rest
  | '\r' :: '\n' :: rest =>
    multilineBody? folding (if folding then done else '\n' :: '\r' :: done) rest
  | '\\' :: 'x' :: a :: b :: rest =>
    match hexChar? [a, b] with
    | some c => multilineBody? false (c :: done) rest
    | none => none
  | '\\' :: 'u' :: a :: b :: c :: d :: rest =>
    match hexChar? [a, b, c, d] with
    | some c => multilineBody? false (c :: done) rest
    | none => none
  | '\\' :: 'U' :: a :: b :: c :: d :: e :: f :: g :: h :: rest =>
    match hexChar? [a, b, c, d, e, f, g, h] with
    | some c => multilineBody? false (c :: done) rest
    | none => none
  | '\\' :: c :: rest =>
    if startsLine (skipSpace (c :: rest)) then multilineBody? true done (c :: rest)
    else
      match simpleEscape? c with
      | some c => multilineBody? false (c :: done) rest
      | none => none
  | c :: rest =>
    if folding && isSpace c then multilineBody? true done rest
    else if isTextChar c then multilineBody? false (c :: done) rest
    else none
  | [] => none

def literalBody? (done : List Char) : List Char → Option (List Char × List Char)
  | '\'' :: rest => some (done.reverse, rest)
  | c :: rest => if isTextChar c then literalBody? (c :: done) rest else none
  | [] => none

def multilineLiteralBody? (done : List Char) : List Char → Option (List Char × List Char)
  | '\'' :: '\'' :: '\'' :: '\'' :: '\'' :: rest => some (('\'' :: '\'' :: done).reverse, rest)
  | '\'' :: '\'' :: '\'' :: '\'' :: rest => some (('\'' :: done).reverse, rest)
  | '\'' :: '\'' :: '\'' :: rest => some (done.reverse, rest)
  | '\n' :: rest => multilineLiteralBody? ('\n' :: done) rest
  | '\r' :: '\n' :: rest => multilineLiteralBody? ('\n' :: '\r' :: done) rest
  | c :: rest => if isTextChar c then multilineLiteralBody? (c :: done) rest else none
  | [] => none

def dropLineBreak : List Char → List Char
  | '\n' :: rest => rest
  | '\r' :: '\n' :: rest => rest
  | text => text

def string? : List Char → Option (List Char × List Char)
  | '"' :: '"' :: '"' :: rest => multilineBody? false [] (dropLineBreak rest)
  | '\'' :: '\'' :: '\'' :: rest => multilineLiteralBody? [] (dropLineBreak rest)
  | '"' :: rest => basicBody? [] rest
  | '\'' :: rest => literalBody? [] rest
  | _ => none

def isBareKeyChar (c : Char) : Bool := c.isAlphanum || c == '_' || c == '-'

def simpleKey? (text : List Char) : Option (String × List Char) :=
  match text with
  | '"' :: rest => (basicBody? [] rest).map fun (key, rest) => (String.ofList key, rest)
  | '\'' :: rest => (literalBody? [] rest).map fun (key, rest) => (String.ofList key, rest)
  | text =>
    let key := text.takeWhile isBareKeyChar
    if key = [] then none else some (String.ofList key, text.dropWhile isBareKeyChar)

def maxParts : Nat := 80

/-- Reads a key of one up to `parts` parts with dots between them, and the spaces after it. -/
def keyOf? : (parts : Nat) → List Char → Option (List String × List Char)
  | 0, _ => none
  | parts + 1, text => do
    let (first, rest) ← simpleKey? text
    match skipSpace rest with
    | '.' :: rest =>
      let (others, rest) ← keyOf? parts (skipSpace rest)
      return (first :: others, rest)
    | rest => return ([first], rest)

def key? (text : List Char) : Option (List String × List Char) := keyOf? maxParts text

end RecordFlow.Toml
