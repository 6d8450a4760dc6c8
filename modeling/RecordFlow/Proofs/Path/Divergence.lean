import RecordFlow.Proofs.Path.Descent
import RecordFlow.Record

/-!
Two paths diverge in a record if their roots differ, or if on the way down they reach one container and
do not denote one slot of it: two names of an object, two indices of an array. The slots count, not the
texts of the segments. What one path finds is untouched by an edit at the other: `edit_keeps_diverging`.
A write and an erasure share the reason (`InPlace`): a step of either touches one slot, and the next step
works on what that slot holds.
-/

namespace RecordFlow.Path

variable {place here there : Path} {segment : String} {rest segments others : List String}
  {tree after child value : Json} {slot : Slot} {edit : Path → List String → Json → Edit Json}

/-! ### Divergence -/

/-- Two rows of segments that select the same children for a while, and then do not denote the same slot of
the container they have reached. -/
inductive Diverge : Json → List String → List String → Prop where
  | fork {tree : Json} {segment counter : String} {rest others : List String}
    (apart : slot? segment tree ≠ slot? counter tree) :
    Diverge tree (segment :: rest) (counter :: others)
  | deeper {tree child : Json} {segment counter : String} {rest others : List String} {slot : Slot}
    (one : slot? segment tree = some slot) (two : slot? counter tree = some slot)
    (held : slot.get? tree = some child) (apart : Diverge child rest others) :
    Diverge tree (segment :: rest) (counter :: others)

theorem Diverge.ne_nil (apart : Diverge tree segments others) : segments ≠ [] := by
  cases apart <;> exact List.cons_ne_nil _ _

/-! ### Edits in place -/

/-- A tree after an edit that touches at most the slot of one segment. -/
inductive Touched (segment : String) (tree : Json) : Json → Prop where
  | unchanged : Touched segment tree tree
  | filled {slot : Slot} (denoted : slot? segment tree = some slot) (child : Json) :
    Touched segment tree (slot.put child tree)
  | cleared {slot : Slot} (denoted : slot? segment tree = some slot) :
    Touched segment tree (slot.clear tree)

namespace Touched

theorem slot?_eq (touched : Touched segment tree after) (counter : String) :
    slot? counter after = slot? counter tree := by
  cases touched with
  | unchanged => rfl
  | @filled slot _ child => exact Slot.slot?_put counter slot child tree
  | @cleared slot _ => exact Slot.slot?_clear counter slot tree

theorem get?_other (touched : Touched segment tree after) (apart : slot? segment tree ≠ some slot)
    (held : slot.get? tree = some child) : slot.get? after = some child := by
  cases touched with
  | unchanged => exact held
  | @filled other denoted content =>
    have different : slot ≠ other := fun same => apart (by rw [denoted, same])
    exact Slot.get?_put_other content different held
  | @cleared other denoted =>
    have different : slot ≠ other := fun same => apart (by rw [denoted, same])
    exact (Slot.get?_clear_other different tree).trans held

end Touched

/-- A step of the edit touches only the slot its segment denotes, and in what that slot holds does the rest
of the edit. Only a null may turn into something else. -/
structure InPlace (edit : Path → List String → Json → Edit Json) : Prop where
  touched (place : Path) (segment : String) (rest : List String) {tree : Json} :
    tree ≠ .null → Touched segment tree (edit place (segment :: rest) tree).after
  within (place : Path) {segment : String} {rest : List String} {tree child : Json} {slot : Slot} :
    slot? segment tree = some slot → slot.get? tree = some child → rest ≠ [] →
      slot.get? (edit place (segment :: rest) tree).after =
        some (edit (place.child segment) rest child).after

theorem ne_null_of_slot? (denoted : slot? segment tree = some slot) : tree ≠ .null := by
  rintro rfl
  cases denoted

/-- What the one row finds is untouched by an edit at the other. -/
theorem InPlace.resolveFrom_after (inPlace : InPlace edit) (apart : Diverge tree segments others)
    (found : resolveFrom there others tree = .ok value) :
    resolveFrom there others (edit here segments tree).after = .ok value := by
  induction apart generalizing here there with
  | @fork tree segment counter rest _ apart =>
    obtain ⟨slot, child, denoted, held, found⟩ := resolveFrom_cons_eq_ok_iff.mp found
    have touched := inPlace.touched here segment rest (ne_null_of_slot? denoted)
    have shape := (touched.slot?_eq counter).trans denoted
    have kept := touched.get?_other (denoted ▸ apart) held
    exact resolveFrom_cons_eq_ok_iff.mpr ⟨slot, child, shape, kept, found⟩
  | @deeper tree child segment counter rest _ slot one two content apart ih =>
    obtain ⟨_, _, denoted, held, found⟩ := resolveFrom_cons_eq_ok_iff.mp found
    cases two.symm.trans denoted
    cases content.symm.trans held
    have touched := inPlace.touched here segment rest (ne_null_of_slot? one)
    have shape := (touched.slot?_eq counter).trans two
    have changed := inPlace.within here one held apart.ne_nil
    exact resolveFrom_cons_eq_ok_iff.mpr ⟨slot, _, shape, changed, ih found⟩

theorem inPlace_writeFrom (value : Json) : InPlace fun place => writeFrom place value where
  touched := by
    intro place segment rest tree solid
    obtain ⟨error, stops⟩ | ⟨slot, denoted, free⟩ :=
      writeFrom_cons_cases place value segment rest solid
    · rw [stops]
      exact .unchanged
    · rw [writeFrom_of_isOpen place value denoted free]
      exact .filled denoted _
  within := by
    intro place segment rest tree child slot denoted held _
    rw [writeFrom_of_get? place value rest denoted held]
    exact Slot.get?_put_self _ denoted

theorem inPlace_eraseFrom : InPlace eraseFrom where
  touched := by
    intro place segment rest tree _
    cases step : childAt place segment tree with
    | error error =>
      rw [eraseFrom_of_stuck rest (stuck_of_childAt step)]
      split <;> exact .unchanged
    | ok child =>
      obtain ⟨slot, denoted, held⟩ := childAt_eq_ok_iff.mp step
      cases rest with
      | nil =>
        rw [eraseFrom_last place denoted]
        exact .cleared denoted
      | cons next rest =>
        rw [eraseFrom_of_get? place (List.cons_ne_nil next rest) denoted held]
        exact .filled denoted _
  within := by
    intro place segment rest tree child slot denoted held more
    rw [eraseFrom_of_get? place more denoted held]
    exact Slot.get?_put_self _ denoted

end RecordFlow.Path

/-! ### Records -/

namespace RecordFlow.Record

def tree (record : Record) : Path.Root → Json
  | .payload => record.payload
  | .metadata => record.metadata

theorem tree_editTree_other {root other : Path.Root} (different : root ≠ other) (record : Record)
    (change : Json → Path.Edit Json) :
    (record.editTree root change).after.tree other = record.tree other := by
  cases record with
  | control => rfl
  | data payload metadata =>
    cases root <;> cases other <;> first | rfl | exact absurd rfl different

/-- A control record ignores the edit. -/
theorem tree_editTree_self (record : Record) (root : Path.Root) (change : Json → Path.Edit Json) :
    (record.editTree root change).after.tree root = record.tree root ∨
      (record.editTree root change).after.tree root = (change (record.tree root)).after := by
  cases record with
  | control => exact .inl rfl
  | data payload metadata => cases root <;> exact .inr rfl

theorem isControl_editTree (record : Record) (root : Path.Root) (change : Json → Path.Edit Json) :
    (record.editTree root change).after.isControl = record.isControl := by
  cases record <;> cases root <;> rfl

@[simp] theorem isControl_set (record : Record) (path : Path) (value : Json) :
    (record.set path value).after.isControl = record.isControl := isControl_editTree record ..

@[simp] theorem isControl_erase (record : Record) (path : Path) :
    (record.erase path).after.isControl = record.isControl := isControl_editTree record ..

theorem editTree_of_data {record : Record} (data : record.isControl = false) (root : Path.Root)
    (change : Json → Path.Edit Json) :
    (record.editTree root change).after.tree root = (change (record.tree root)).after ∧
      (record.editTree root change).failure = (change (record.tree root)).failure := by
  cases record with
  | control => cases data
  | data payload metadata => cases root <;> exact ⟨rfl, rfl⟩

theorem get_eq_lookup {record : Record} (data : record.isControl = false) (path : Path) :
    record.get path = path.lookup (record.tree path.root) := by
  obtain ⟨root, segments⟩ := path
  cases record with
  | control => cases data
  | data payload metadata => cases root <;> rfl

theorem get_of_resolve {record : Record} {path : Path} {value : Json} (data : record.isControl = false)
    (found : path.resolve (record.tree path.root) = .ok value) : record.get path = .ofTree value := by
  rw [get_eq_lookup data, Path.lookup_of_resolve found]

theorem resolve_set {record : Record} {path : Path} {value : Json} (data : record.isControl = false)
    (through : (record.set path value).failure = none) :
    path.resolve ((record.set path value).after.tree path.root) = .ok value := by
  obtain ⟨after, failure⟩ := editTree_of_data data path.root (path.write value)
  rw [set, failure] at through
  rw [set, after]
  exact Path.resolveFrom_writeFrom through

/-- The roots differ, or the segments diverge in the tree of their root. -/
def DivergeIn (record : Record) (path other : Path) : Prop :=
  path.root ≠ other.root ∨ Path.Diverge (record.tree path.root) path.segments other.segments

theorem resolve_editTree {record : Record} {path other : Path} {value : Json}
    {edit : Path → List String → Json → Path.Edit Json} (inPlace : Path.InPlace edit)
    (apart : record.DivergeIn path other) (found : other.resolve (record.tree other.root) = .ok value) :
    other.resolve ((record.editTree path.root (edit ⟨path.root, []⟩ path.segments)).after.tree
      other.root) = .ok value := by
  by_cases same : path.root = other.root
  · have apart := apart.resolve_left fun different => different same
    rw [← same] at found ⊢
    obtain unchanged | changed :=
      tree_editTree_self record path.root (edit ⟨path.root, []⟩ path.segments)
    · rw [unchanged, found]
    · rw [changed]
      exact inPlace.resolveFrom_after apart found
  · rw [tree_editTree_other same, found]

/-- What a path finds is untouched by a write or an erasure at a path that diverges from it, whether or not
that goes through. -/
theorem edit_keeps_diverging {record : Record} {path other : Path} {found : Json} (value : Json)
    (apart : record.DivergeIn path other)
    (before : other.resolve (record.tree other.root) = .ok found) :
    other.resolve ((record.set path value).after.tree other.root) = .ok found ∧
      other.resolve ((record.erase path).after.tree other.root) = .ok found :=
  ⟨resolve_editTree (Path.inPlace_writeFrom value) apart before,
    resolve_editTree Path.inPlace_eraseFrom apart before⟩

/-- Padding an array leaves an element of it alone that is named by another text, `01` for 1. -/
theorem edit_keeps_diverging_padded :
    (data (.object [("rows", .array [.null, .bool true])]) .null).DivergeIn
        ⟨.payload, ["rows", "5"]⟩ ⟨.payload, ["rows", "01"]⟩ ∧
      Path.resolve ⟨.payload, ["rows", "01"]⟩
        (((data (.object [("rows", .array [.null, .bool true])]) .null).set
          ⟨.payload, ["rows", "5"]⟩ (.string "new")).after.tree .payload) = .ok (.bool true) := by
  have apart : (data (.object [("rows", .array [.null, .bool true])]) .null).DivergeIn
      ⟨.payload, ["rows", "5"]⟩ ⟨.payload, ["rows", "01"]⟩ :=
    .inr (.deeper rfl rfl rfl (.fork (by decide)))
  exact ⟨apart, (edit_keeps_diverging _ apart rfl).1⟩

end RecordFlow.Record
