import RecordFlow.Toml.Scalars
import RecordFlow.Toml.Tables

/-! A TOML document is a row of entries and table headers. Values may nest in arrays and inline tables. -/

namespace RecordFlow.Toml

def depthLimit : Nat := 80

/-- Skips spaces, line breaks and comments; `comment` says that a comment has begun. -/
def skipFiller? (comment : Bool) : List Char → Option (List Char)
  | [] => some []
  | '\n' :: rest => skipFiller? false rest
  | '\r' :: '\n' :: rest => skipFiller? false rest
  | c :: rest =>
    if comment then if isTextChar c then skipFiller? true rest else none
    else if isSpace c then skipFiller? false rest
    else if c = '#' then skipFiller? true rest
    else some (c :: rest)

def skipLineEnd? (comment : Bool) : List Char → Option (List Char)
  | [] => some []
  | '\n' :: rest => some rest
  | '\r' :: '\n' :: rest => some rest
  | c :: rest =>
    if comment then if isTextChar c then skipLineEnd? true rest else none
    else if isSpace c then skipLineEnd? false rest
    else if c = '#' then skipLineEnd? true rest
    else none

abbrev ValueReader := List Char → Option (Node × List Char)

def splitLast? (parts : List String) : Option (List String × String) :=
  parts.getLast?.map fun key => (parts.dropLast, key)

def elements? (value : ValueReader) :
    (rounds : Nat) → (done : List Node) → List Char → Option (Node × List Char)
  | 0, _, _ => none
  | rounds + 1, done, text => do
    match ← skipFiller? false text with
    | ']' :: rest => return (.array done.reverse, rest)
    | text =>
      let (node, rest) ← value text
      match ← skipFiller? false rest with
      | ',' :: rest => elements? value rounds (node :: done) rest
      | ']' :: rest => return (.array (node :: done).reverse, rest)
      | _ => none

/-- Reads the entry of an inline table at the start of a text; the parts of the entry, but not those of
its key, may stand on lines of their own. -/
def inlineEntry? (value : ValueReader) (table : Table) (text : List Char) :
    Option (Table × List Char) := do
  let (parts, rest) ← key? text
  let (path, key) ← splitLast? parts
  match ← skipFiller? false rest with
  | '=' :: rest =>
    let (node, rest) ← value (← skipFiller? false rest)
    return (← table.enter? path key node, rest)
  | _ => none

def inlineEntries? (value : ValueReader) :
    (rounds : Nat) → Table → List Char → Option (Node × List Char)
  | 0, _, _ => none
  | rounds + 1, table, text => do
    match ← skipFiller? false text with
    | '\x7d' :: rest => return (table.node, rest)
    | text =>
      let (table, rest) ← inlineEntry? value table text
      match ← skipFiller? false rest with
      | ',' :: rest => inlineEntries? value rounds table rest
      | '\x7d' :: rest => return (table.node, rest)
      | _ => none

/-- Reads a value in which at most `levels` arrays and inline tables nest. -/
def value? : (levels : Nat) → ValueReader
  | 0, text =>
    match text with
    | '[' :: _ => none
    | '\x7b' :: _ => none
    | text => simpleValue? text
  | levels + 1, text =>
    match text with
    | '[' :: rest => elements? (value? levels) text.length [] rest
    | '\x7b' :: rest => inlineEntries? (value? levels) text.length (Table.empty .header) rest
    | text => simpleValue? text
where
  simpleValue? (text : List Char) : Option (Node × List Char) :=
    match text with
    | '"' :: _ => (string? text).map fun (s, rest) => (.string (String.ofList s), rest)
    | '\'' :: _ => (string? text).map fun (s, rest) => (.string (String.ofList s), rest)
    | text => scalar? text

def header? (closing text : List Char) : Option (List String × String × List Char) := do
  let (parts, rest) ← key? (skipSpace text)
  let (path, key) ← splitLast? parts
  if closing.isPrefixOf rest then
    return (path, key, ← skipLineEnd? false (rest.drop closing.length))
  else none

/-- A document in the making: the root table and the path of the table that entries go into. -/
structure Document where
  root : Table
  current : List String

def expressions? : (rounds : Nat) → Document → List Char → Option Node
  | 0, _, _ => none
  | rounds + 1, document, text => do
    match ← skipFiller? false text with
    | [] => return document.root.node
    | '[' :: '[' :: rest =>
      let (path, key, rest) ← header? [']', ']'] rest
      let root ← document.root.openElement? path key
      expressions? rounds ⟨root, path ++ [key]⟩ rest
    | '[' :: rest =>
      let (path, key, rest) ← header? [']'] rest
      let root ← document.root.openTable? path key
      expressions? rounds ⟨root, path ++ [key]⟩ rest
    | text =>
      let (parts, rest) ← key? text
      let (path, key) ← splitLast? parts
      match rest with
      | '=' :: rest =>
        let (node, rest) ← value? depthLimit (skipSpace rest)
        let root ← document.root.within? false (Table.enter? path key node) document.current
        expressions? rounds ⟨root, document.current⟩ (← skipLineEnd? false rest)
      | _ => none

def node? (text : String) : Option Node :=
  let text :=
    match text.toList with
    | '\ufeff' :: rest => rest
    | text => text
  expressions? (text.length + 1) ⟨Table.empty .header, []⟩ text

end RecordFlow.Toml
