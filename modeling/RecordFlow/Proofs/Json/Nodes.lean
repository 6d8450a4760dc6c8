import RecordFlow.Node
import RecordFlow.Proofs.Fields

/-!
The node of a tree is made part by part, and so is the tree of a node: an array has the trees of its elements, and
an object is the map of the trees of its members. So a relation that nodes and trees inherit from their parts
holds of a node and its tree (`Inherited.of_toJson?`).
-/

namespace RecordFlow.Node

variable {nodes : List Node} {done items : List Json} {members : List (String × Node)}
  {before fields : List (String × Json)}

theorem ofItems_eq_map (items : List Json) : ofItems items = items.map ofJson := by
  induction items with
  | nil => rfl
  | cons item rest ih => rw [ofItems, ih, List.map_cons]

theorem ofFields_eq_map (fields : List (String × Json)) :
    ofFields fields = fields.map fun field => (field.1, ofJson field.2) := by
  induction fields with
  | nil => rfl
  | cons field rest ih => rw [ofFields, ih, List.map_cons]

theorem exists_of_toItems? (read : toItems? done nodes = some items) :
    ∃ more, List.Forall₂ (fun node item => node.toJson? = some item) nodes more ∧
      items = done.reverse ++ more := by
  induction nodes generalizing done with
  | nil =>
    cases read
    exact ⟨[], .nil, (List.append_nil _).symm⟩
  | cons node rest ih =>
    rw [toItems?] at read
    split at read
    · rename_i item one
      obtain ⟨more, each, rfl⟩ := ih read
      exact ⟨item :: more, .cons one each, by rw [List.reverse_cons, List.append_assoc, List.singleton_append]⟩
    · cases read

theorem exists_of_toFields? (read : toFields? before members = some fields) :
    ∃ entries, Fields.Entrywise (fun node tree => node.toJson? = some tree) members entries ∧
      fields = entries.foldl (fun fields entry => Fields.insert entry.1 entry.2 fields) before := by
  induction members generalizing before with
  | nil =>
    cases read
    exact ⟨[], .nil, rfl⟩
  | cons member rest ih =>
    obtain ⟨key, node⟩ := member
    rw [toFields?] at read
    split at read
    · rename_i value one
      obtain ⟨entries, each, rfl⟩ := ih read
      exact ⟨(key, value) :: entries, .cons ⟨rfl, one⟩ each, rfl⟩
    · cases read

/-- A relation between nodes and trees that a node and its tree inherit from their parts. -/
structure Inherited (related : Node → Json → Prop) : Prop where
  null : related .null .null
  bool (b : Bool) : related (.bool b) (.bool b)
  number (n : Json.Number) : related (.number n) (.number n)
  string (s : String) : related (.string s) (.string s)
  array {nodes : List Node} {items : List Json} (each : List.Forall₂ related nodes items) :
    related (.array nodes) (.array items)
  object {members : List (String × Node)} {fields : List (String × Json)}
    (each : Fields.Entrywise related members fields) :
    related (.object members) (.object (Fields.ofList fields))

/-- By induction over the node, whose parts are read before it. -/
theorem Inherited.of_toJson? {related : Node → Json → Prop} (inherited : Inherited related) :
    ∀ {node : Node} {tree : Json}, node.toJson? = some tree → related node tree
  | .invalid, _, read | .refused, _, read => by simp [toJson?] at read
  | .null, _, read => by
    cases read
    exact inherited.null
  | .bool b, _, read => by
    cases read
    exact inherited.bool b
  | .number n, _, read => by
    cases read
    exact inherited.number n
  | .string s, _, read => by
    cases read
    exact inherited.string s
  | .array nodes, _, read => by
    rw [toJson?] at read
    obtain ⟨items, inside, rfl⟩ := Option.map_eq_some_iff.mp read
    obtain ⟨items, each, rfl⟩ := exists_of_toItems? inside
    exact inherited.array (forall₂_imp_of_mem each fun node held item one => inherited.of_toJson? one)
  | .object members, _, read => by
    rw [toJson?] at read
    obtain ⟨fields, inside, rfl⟩ := Option.map_eq_some_iff.mp read
    obtain ⟨fields, each, rfl⟩ := exists_of_toFields? inside
    refine inherited.object (forall₂_imp_of_mem each ?_)
    exact fun member held field one => ⟨one.1, inherited.of_toJson? one.2⟩
termination_by node => sizeOf node
decreasing_by
  · have inside := List.sizeOf_lt_of_mem held
    rw [array.sizeOf_spec]
    omega
  · have inside := List.sizeOf_lt_of_mem held
    have part : sizeOf member = 1 + sizeOf member.1 + sizeOf member.2 := rfl
    rw [object.sizeOf_spec]
    omega

end RecordFlow.Node
