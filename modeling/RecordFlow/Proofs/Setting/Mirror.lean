import RecordFlow.Proofs.Setting

/-!
Reading tries the kinds of settings one after another (`ofNode?_eq_findSome?`). What it makes of a tree, or of any
document of the tree, holds value by value what the tree holds (`Mirrors`), and so is written as the tree again:
`reading_loses_nothing`.
-/

namespace RecordFlow.Setting

variable {tree : Json} {setting : Setting} {settings : List Setting} {entries : List (String × Setting)}

/-! ### One kind after another -/

/-- The kinds of settings, in the order in which reading tries them. -/
inductive Alternative where
  | null
  | bool
  | integer
  | float
  | string
  | array
  | object
  deriving DecidableEq, Repr

namespace Alternative

def all : List Alternative := [null, bool, integer, float, string, array, object]

/-- What the node is as a setting of this kind, if it can be one. A whole number can be a double too. -/
def read? : Alternative → Node → Option Setting
  | null, .null => some .null
  | bool, .bool b => some (.bool b)
  | integer, .number (.integer n) => if Text.fitsInt64 n then some (.integer (Int64.ofInt n)) else none
  | float, .number (.integer n) => some (.float (.ofInt n))
  | float, .number (.float x) => some (.float x)
  | string, .string s => some (.string s)
  | array, .array items => (ofItems? items).map .array
  | object, .object members => (ofMembers? members).map fun fields => .object (Fields.ofList fields)
  | _, _ => none

end Alternative

/-- A node is read as the first kind of setting that it can be. -/
theorem ofNode?_eq_findSome? (node : Node) : ofNode? node = Alternative.all.findSome? (·.read? node) := by
  cases node with
  | invalid | refused | null | bool | string => rfl
  | number n =>
    cases n with
    | float x => rfl
    | integer n =>
      -- a whole number that does not fit in the word is left to the doubles
      rw [ofNode?, ofInt]
      by_cases fits : Text.fitsInt64 n <;> simp [Alternative.all, Alternative.read?, fits]
  | array items => cases read : ofItems? items <;> simp [ofNode?, Alternative.all, Alternative.read?, read]
  | object members => cases read : ofMembers? members <;> simp [ofNode?, Alternative.all, Alternative.read?, read]

/-! ### Value by value -/

/-- The setting holds what the tree holds, value by value. -/
inductive Mirrors : Setting → Json → Prop where
  | null : Mirrors null .null
  | bool (b : Bool) : Mirrors (bool b) (.bool b)
  | integer (n : Int64) : Mirrors (integer n) (.number (.integer n.toInt))
  | float (x : Binary64) : Mirrors (float x) (.number (.float x))
  | string (s : String) : Mirrors (string s) (.string s)
  | array {settings : List Setting} {items : List Json} (each : List.Forall₂ Mirrors settings items) :
      Mirrors (array settings) (.array items)
  | object {entries : List (String × Setting)} {fields : List (String × Json)}
      (names : entries.map Prod.fst = fields.map Prod.fst)
      (each : List.Forall₂ Mirrors (entries.map Prod.snd) (fields.map Prod.snd)) :
      Mirrors (object entries) (.object fields)

theorem toInt_ofInt {n : Int} (fits : Text.fitsInt64 n) : (Int64.ofInt n).toInt = n := by
  rw [Text.fitsInt64, decide_eq_true_iff, Text.minInt64, Text.maxInt64, Text.halfWord] at fits
  exact Int64.toInt_ofInt_of_le (by omega) (by omega)

/-- A tree with signed whole numbers is read, and what is read mirrors it. -/
theorem exists_mirror (wellFormed : tree.WellFormed) (signed : tree.SignedIntegers) :
    ∃ setting, ofJson? tree = some setting ∧ Mirrors setting tree := by
  have both := wellFormed.and signed
  clear wellFormed signed
  induction both with
  | @intro tree here _ ih =>
    cases tree with
    | null => exact ⟨_, rfl, .null⟩
    | bool b => exact ⟨_, rfl, .bool b⟩
    | string s => exact ⟨_, rfl, .string s⟩
    | number n =>
      cases n with
      | float x => exact ⟨_, rfl, .float x⟩
      | integer n =>
        have fits : Text.fitsInt64 n = true := here.2
        refine ⟨integer (Int64.ofInt n), ?_, ?_⟩
        · rw [ofJson?, Node.ofJson, ofNode?, ofInt, if_pos fits]
        · have mirrors := Mirrors.integer (Int64.ofInt n)
          rwa [toInt_ofInt fits] at mirrors
    | array items =>
      obtain ⟨settings, each⟩ := exists_forall₂_iff.mpr ih
      rw [Json.children] at each
      have read := ofItems?_ofItems_iff.mpr (each.imp fun _ _ both => both.1)
      refine ⟨array settings, ?_, .array (each.imp fun _ _ both => both.2).flip⟩
      rw [ofJson?, Node.ofJson, ofNode?, read, Option.map_some]
    | object fields =>
      obtain ⟨entries, each⟩ : ∃ entries, Fields.Entrywise
          (fun tree setting => ofJson? tree = some setting ∧ Mirrors setting tree) fields entries :=
        Fields.exists_entrywise fun field member => ih field.2 (List.mem_map_of_mem member)
      have read := ofMembers?_ofFields_iff.mpr (each.imp fun _ _ both => both.1)
      obtain ⟨names, mirrors⟩ := Fields.entrywise_iff.mp (each.imp fun _ _ both => both.2)
      have sorted : Fields.Sorted entries := by
        rw [Fields.Sorted, ← names]
        exact here.1
      refine ⟨object entries, ?_, .object names.symm mirrors.flip⟩
      rw [ofJson?, Node.ofJson, ofNode?, read, Option.map_some, Fields.ofList_of_sorted sorted]

/-! ### Back to the tree -/

theorem toItems_eq_iff {items : List Json} :
    toItems settings = items ↔ List.Forall₂ (fun setting item => setting.toJson = item) settings items := by
  rw [toItems_eq_map, ← List.forall₂_eq_eq_eq, List.forall₂_map_left_iff]

theorem toFields_eq_iff {fields : List (String × Json)} :
    toFields entries = fields ↔ Fields.Entrywise (fun setting tree => setting.toJson = tree) entries fields := by
  rw [toFields_eq_map, ← List.forall₂_eq_eq_eq, List.forall₂_map_left_iff, Fields.Entrywise]
  simp only [Prod.ext_iff]

theorem toJson_of_mirrors (inRange : tree.NumbersInRange) (mirrors : Mirrors setting tree) :
    setting.toJson = tree := by
  induction inRange generalizing setting with
  | @intro tree here _ ih =>
    -- every setting that mirrors a child is written as the child
    have back (settings : List Setting) (each : List.Forall₂ Mirrors settings tree.children) :
        List.Forall₂ (fun setting child => setting.toJson = child) settings tree.children :=
      (forall₂_imp_of_mem each.flip fun child held _ => ih child held).flip
    cases mirrors with
    | null | bool | string | integer => rfl
    | float x =>
      have finite : x.isFinite = true := here
      rw [toJson, if_pos finite]
    | @array settings items each =>
      rw [toJson, toItems_eq_iff.mpr (back settings each)]
      rfl
    | @object entries fields names each =>
      rw [toJson, toFields_eq_iff.mpr (Fields.entrywise_iff.mpr ⟨names, back _ each⟩)]

/-! ### Documents -/

/-- A document is read as its tree is, whatever else it says before a name comes again. -/
theorem inherited_reading :
    Node.Inherited fun node tree => ∃ setting, ofNode? node = some setting ∧ ofJson? tree = some setting where
  null := ⟨_, rfl, rfl⟩
  bool _ := ⟨_, rfl, rfl⟩
  number
    | .integer _ => ⟨_, rfl, rfl⟩
    | .float _ => ⟨_, rfl, rfl⟩
  string _ := ⟨_, rfl, rfl⟩
  array {_ _} each := by
    obtain ⟨settings, fromNodes, fromItems⟩ := exists_forall₂_between each
    refine ⟨array settings, ?_, ?_⟩
    · rw [ofNode?, ofItems?_eq_some_iff.mpr fromNodes, Option.map_some]
    · rw [ofJson?, Node.ofJson, ofNode?, ofItems?_ofItems_iff.mpr fromItems, Option.map_some]
  object {_ _} each := by
    obtain ⟨entries, fromMembers, fromFields⟩ := Fields.Entrywise.exists_between each
    refine ⟨object (Fields.ofList entries), ?_, ?_⟩
    · rw [ofNode?, ofMembers?_eq_some_iff.mpr fromMembers, Option.map_some]
    · rw [ofJson?, Node.ofJson, ofNode?, ofMembers?_ofFields_iff.mpr fromFields.ofList, Option.map_some,
        Fields.ofList_of_sorted (Fields.sorted_ofList entries)]

/-! ### Nothing is lost -/

/-- Reading tries the kinds of settings in order, and a tree whose whole numbers are signed words is read as a
setting that mirrors it and is written as it, from every document of the tree; so no two trees are read alike. -/
theorem reading_loses_nothing :
    (∀ node, ofNode? node = Alternative.all.findSome? (·.read? node)) ∧
      ∀ tree : Json, tree.WellFormed → tree.NumbersInRange → tree.SignedIntegers →
        ∃ setting, ofJson? tree = some setting ∧ setting.toJson = tree ∧ Mirrors setting tree ∧
          (∀ node : Node, node.toJson? = some tree → ofNode? node = some setting) ∧
          ∀ other : Json, other.WellFormed → other.NumbersInRange → other.SignedIntegers →
            ofJson? other = some setting → other = tree := by
  refine ⟨ofNode?_eq_findSome?, ?_⟩
  intro tree wellFormed inRange signed
  obtain ⟨setting, read, mirrors⟩ := exists_mirror wellFormed signed
  have back := toJson_of_mirrors inRange mirrors
  refine ⟨setting, read, back, mirrors, ?_, ?_⟩
  · intro node document
    obtain ⟨_, fromNode, fromTree⟩ := inherited_reading.of_toJson? document
    rw [fromNode, ← fromTree, read]
  · intro other wellFormedToo inRangeToo signedToo readToo
    obtain ⟨_, found, mirrorsToo⟩ := exists_mirror wellFormedToo signedToo
    rw [readToo] at found
    cases found
    rw [← toJson_of_mirrors inRangeToo mirrorsToo, back]

/-- A text that spells null, the least signed word, the negative zero, and a document that says a name twice. -/
theorem reading_loses_nothing_twice :
    let tree : Json := .object [("f", .number (.float (.zero true))),
      ("l", .array [.null, .string "null", .ofInt (-9223372036854775808)])]
    let setting := object [("f", float (.zero true)),
      ("l", array [null, string "null", integer (-9223372036854775808)])]
    ofJson? tree = some setting ∧ setting.toJson = tree ∧
      ofNode? (.object [("l", .number (.integer 18446744073709551615)), ("f", .number (.float (.zero true))),
        ("l", .array [.null, .string "null", .number (.integer (-9223372036854775808))])]) = some setting := by
  intro tree setting
  obtain ⟨-, lossless⟩ := reading_loses_nothing
  have wellFormed : tree.WellFormed := by
    have order : "f" < "l" := by decide
    simpa [tree, Json.WellFormed, Json.HasSortedNames, Fields.Sorted, Json.ofInt] using order
  have inRange : tree.NumbersInRange := by
    have finite : (Binary64.zero true).isFinite = true := by decide
    simp [tree, Json.NumbersInRange, Json.HasNumberInRange, Json.Number.InRange, Json.ofInt, finite,
      Text.minInt64, Text.halfWord, Text.wordSize]
  have signed : tree.SignedIntegers := by
    have fits : Text.fitsInt64 (-9223372036854775808) = true := by decide
    simp [tree, Json.SignedIntegers, Json.HasSignedInteger, Json.ofInt, fits]
  obtain ⟨found, read, back, -, document, -⟩ := lossless tree wellFormed inRange signed
  have same : found = setting := Option.some.inj (read.symm.trans rfl)
  subst same
  exact ⟨read, back, document _ rfl⟩

end RecordFlow.Setting
