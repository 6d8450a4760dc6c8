import RecordFlow.Proofs.Binary64.Finite
import RecordFlow.Proofs.Json.Nodes
import RecordFlow.Proofs.Json.Subtree
import RecordFlow.Setting

/-!
# Settings in writing

A setting is written as a tree and read back. Nothing is lost if its doubles are finite and its objects
are maps (`Canonical`), and every setting that was read from a tree is such.
-/

namespace RecordFlow.Setting

/-! ### Part by part -/

section Parts

variable {nodes : List Node} {items : List Json} {settings : List Setting} {members : List (String × Node)}
  {fields : List (String × Json)} {entries : List (String × Setting)}

theorem ofItems?_eq_some_iff :
    ofItems? nodes = some settings ↔
      List.Forall₂ (fun node setting => ofNode? node = some setting) nodes settings := by
  induction nodes generalizing settings with
  | nil => rw [ofItems?, List.forall₂_nil_left_iff, Option.some.injEq, eq_comm]
  | cons node rest ih =>
    rw [ofItems?, List.forall₂_cons_left_iff]
    constructor
    · intro read
      split at read
      · rename_i first others one more
        cases read
        exact ⟨first, others, one, ih.mp more, rfl⟩
      · cases read
    · rintro ⟨first, others, one, each, rfl⟩
      rw [one, ih.mpr each]

theorem ofMembers?_eq_some_iff :
    ofMembers? members = some entries ↔
      Fields.Entrywise (fun node setting => ofNode? node = some setting) members entries := by
  rw [Fields.Entrywise]
  induction members generalizing entries with
  | nil => rw [ofMembers?, List.forall₂_nil_left_iff, Option.some.injEq, eq_comm]
  | cons member rest ih =>
    obtain ⟨key, node⟩ := member
    rw [ofMembers?, List.forall₂_cons_left_iff]
    constructor
    · intro read
      split at read
      · rename_i first others one more
        cases read
        exact ⟨(key, first), others, ⟨rfl, one⟩, ih.mp more, rfl⟩
      · cases read
    · rintro ⟨⟨_, first⟩, others, ⟨rfl, one⟩, each, rfl⟩
      simp only [one, ih.mpr each]

theorem ofItems?_ofItems_iff :
    ofItems? (Node.ofItems items) = some settings ↔
      List.Forall₂ (fun item setting => ofJson? item = some setting) items settings := by
  rw [ofItems?_eq_some_iff, Node.ofItems_eq_map, List.forall₂_map_left_iff]
  rfl

theorem ofMembers?_ofFields_iff :
    ofMembers? (Node.ofFields fields) = some entries ↔
      Fields.Entrywise (fun tree setting => ofJson? tree = some setting) fields entries := by
  rw [ofMembers?_eq_some_iff, Node.ofFields_eq_map, Fields.Entrywise, List.forall₂_map_left_iff]
  rfl

theorem toItems_eq_map (settings : List Setting) : toItems settings = settings.map toJson := by
  induction settings with
  | nil => rfl
  | cons setting rest ih => rw [toItems, ih, List.map_cons]

theorem toFields_eq_map (entries : List (String × Setting)) :
    toFields entries = entries.map fun entry => (entry.1, entry.2.toJson) := by
  induction entries with
  | nil => rfl
  | cons entry rest ih => rw [toFields, ih, List.map_cons]

end Parts

/-! ### Writing, then reading -/

/-- Doubles are finite, and objects are maps, throughout the setting. -/
inductive Canonical : Setting → Prop where
  | null : Canonical null
  | bool (b : Bool) : Canonical (bool b)
  | integer (n : Int64) : Canonical (integer n)
  | float {x : Binary64} (finite : x.isFinite) : Canonical (float x)
  | string (s : String) : Canonical (string s)
  | array {items : List Setting} (all : ∀ item ∈ items, Canonical item) : Canonical (array items)
  | object {fields : List (String × Setting)} (sorted : Fields.Sorted fields)
      (all : ∀ entry ∈ fields, Canonical entry.2) : Canonical (object fields)

theorem fitsInt64_toInt (n : Int64) : Text.fitsInt64 n.toInt := by
  have low := n.le_toInt
  have high := n.toInt_lt
  rw [Text.fitsInt64, decide_eq_true_iff, Text.minInt64, Text.maxInt64, Text.halfWord]
  omega

theorem ofItems?_toItems {items : List Setting}
    (back : ∀ item ∈ items, ofNode? (Node.ofJson item.toJson) = some item) :
    ofItems? (Node.ofItems (toItems items)) = some items := by
  rw [ofItems?_ofItems_iff, toItems_eq_map, List.forall₂_map_left_iff, List.forall₂_same]
  exact back

theorem ofMembers?_toFields {fields : List (String × Setting)}
    (back : ∀ entry ∈ fields, ofNode? (Node.ofJson entry.2.toJson) = some entry.2) :
    ofMembers? (Node.ofFields (toFields fields)) = some fields := by
  rw [ofMembers?_ofFields_iff, toFields_eq_map, Fields.Entrywise, List.forall₂_map_left_iff, List.forall₂_same]
  exact fun entry member => ⟨rfl, back entry member⟩

theorem ofNode?_toJson {setting : Setting} (canonical : setting.Canonical) :
    ofNode? (Node.ofJson setting.toJson) = some setting := by
  induction canonical with
  | null | bool | string => rfl
  | integer n =>
    rw [toJson, Json.ofInt, Node.ofJson, ofNode?, ofInt, if_pos (fitsInt64_toInt n), Int64.ofInt_toInt]
  | float finite => rw [toJson, if_pos finite, Node.ofJson, ofNode?]
  | array all ih => rw [toJson, Node.ofJson, ofNode?, ofItems?_toItems ih, Option.map_some]
  | object sorted all ih =>
    rw [toJson, Node.ofJson, ofNode?, ofMembers?_toFields ih, Option.map_some,
      Fields.ofList_of_sorted sorted]

/-! ### What is read -/

theorem canonical_ofInt {n : Int} (inRange : (Json.Number.integer n).InRange) : (ofInt n).Canonical := by
  unfold ofInt
  split
  · exact .integer _
  · obtain ⟨low, high⟩ := inRange
    refine .float (Binary64.isFinite_ofInt ?_)
    rw [Text.minInt64, Text.halfWord] at low
    rw [Text.wordSize] at high
    omega

theorem canonical_of_ofNode? {setting : Setting} {tree : Json} (inRange : tree.NumbersInRange)
    (read : ofNode? (Node.ofJson tree) = some setting) : setting.Canonical := by
  induction inRange generalizing setting with
  | @intro tree here _ ih =>
    cases tree with
    | null =>
      cases read
      exact .null
    | bool b =>
      cases read
      exact .bool b
    | string s =>
      cases read
      exact .string s
    | number n =>
      cases n with
      | integer n =>
        cases read
        exact canonical_ofInt here
      | float x =>
        cases read
        exact .float here
    | array items =>
      rw [Node.ofJson, ofNode?] at read
      obtain ⟨settings, inside, rfl⟩ := Option.map_eq_some_iff.mp read
      refine .array fun setting member => ?_
      obtain ⟨item, held, one⟩ := exists_of_forall₂_right (ofItems?_ofItems_iff.mp inside) member
      exact ih item held one
    | object fields =>
      rw [Node.ofJson, ofNode?] at read
      obtain ⟨entries, inside, rfl⟩ := Option.map_eq_some_iff.mp read
      refine .object (Fields.sorted_ofList entries) fun entry member => ?_
      obtain ⟨field, held, -, one⟩ :=
        exists_of_forall₂_right (ofMembers?_ofFields_iff.mp inside) (Fields.mem_ofList member)
      exact ih field.2 (List.mem_map_of_mem held) one

theorem canonical_of_ofMembers? {fields : List (String × Json)} {entries : List (String × Setting)}
    (inRange : ∀ field ∈ fields, field.2.NumbersInRange) (read : ofMembers? (Node.ofFields fields) = some entries) :
    ∀ entry ∈ entries, entry.2.Canonical := by
  intro entry member
  obtain ⟨field, held, -, one⟩ := exists_of_forall₂_right (ofMembers?_ofFields_iff.mp read) member
  exact canonical_of_ofNode? (inRange field held) one

end RecordFlow.Setting
