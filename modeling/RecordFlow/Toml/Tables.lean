import RecordFlow.Node

/-!
How entries and headers build up a tree of tables. A table may be defined once; one that only lies on the way to
another may still be defined later, and one made by dotted keys may only be extended by dotted keys.
-/

namespace RecordFlow.Toml

inductive Origin where
  /-- It is the root, or a header names it. -/
  | header
  /-- It lies on the way to a table that a header names. -/
  | passing
  /-- It lies on the way of a dotted key. -/
  | dotted
  deriving DecidableEq

mutual

inductive Entry where
  | value (node : Node)
  | table (table : Table)
  /-- A row of tables, each opened by a header of its own: the last, then those before it. -/
  | tables (last : Table) (before : List Table)

inductive Table where
  | mk (origin : Origin) (entries : List (String × Entry))

end

namespace Table

def origin : Table → Origin
  | mk origin _ => origin

def entries : Table → List (String × Entry)
  | mk _ entries => entries

def empty (origin : Origin) : Table := mk origin []

def find? (table : Table) (key : String) : Option Entry := table.entries.lookup key

def put (table : Table) (key : String) (entry : Entry) : Table :=
  if (table.find? key).isSome then
    mk table.origin (table.entries.map fun (k, e) => if k = key then (k, entry) else (k, e))
  else mk table.origin (table.entries ++ [(key, entry)])

/-- Changes the table that a path of keys leads to; missing tables are made. In a row of tables the
path goes on in the last one. -/
def within? (dotted : Bool) (change : Table → Option Table) : List String → Table → Option Table
  | [], table => change table
  | key :: rest, table =>
    match table.find? key with
    | none => do
      let child ← within? dotted change rest (empty (if dotted then .dotted else .passing))
      return table.put key (.table child)
    | some (.table child) =>
      if dotted && child.origin == .header then none
      else do
        let child ← within? dotted change rest child
        return table.put key (.table child)
    | some (.tables last before) => do
      let last ← within? dotted change rest last
      return table.put key (.tables last before)
    | some (.value _) => none

/-- Enters a value under the last part of a key; the parts before it are the path to its table. -/
def enter? (path : List String) (key : String) (node : Node) (table : Table) : Option Table :=
  within? true
    (fun parent =>
      if (parent.origin == .dotted) == path.isEmpty || (parent.find? key).isSome then none
      else some (parent.put key (.value node)))
    path table

def openTable? (path : List String) (key : String) (root : Table) : Option Table :=
  within? false
    (fun parent =>
      match parent.find? key with
      | none => some (parent.put key (.table (empty .header)))
      | some (.table (mk .passing entries)) => some (parent.put key (.table (mk .header entries)))
      | some _ => none)
    path root

def openElement? (path : List String) (key : String) (root : Table) : Option Table :=
  within? false
    (fun parent =>
      match parent.find? key with
      | none => some (parent.put key (.tables (empty .header) []))
      | some (.tables last before) => some (parent.put key (.tables (empty .header) (last :: before)))
      | some _ => none)
    path root

mutual

def node : Table → Node
  | mk _ entries => .object (members entries)

def members : List (String × Entry) → List (String × Node)
  | [] => []
  | (key, entry) :: rest => (key, entryNode entry) :: members rest

def entryNode : Entry → Node
  | .value node => node
  | .table table => table.node
  | .tables last before => .array ((nodes before).reverse ++ [last.node])

def nodes : List Table → List Node
  | [] => []
  | table :: rest => table.node :: nodes rest

end

end Table

end RecordFlow.Toml
