import RecordFlow.Proofs.Path.Divergence

/-!
An edit brings nothing into being at a path that diverges from its own, except the nulls that pad an array
(`resolve_before_set`), and whatever diverges from such a path still does afterwards (`divergeIn_erase`). So
a second edit leaves a path alone that diverged from both at first.
-/

namespace RecordFlow.Path

variable {here there : Path} {segment counter : String} {segments others third : List String}
  {tree after child value : Json} {slot : Slot} {edit : Path → List String → Json → Edit Json}

theorem Touched.get?_of_other (touched : Touched segment tree after) (apart : slot? segment tree ≠ some slot)
    (held : slot.get? after = some child) : slot.get? tree = some child ∨ child = .null := by
  cases touched with
  | unchanged => exact .inl held
  | @filled other denoted content =>
    have different : slot ≠ other := fun same => apart (by rw [denoted, same])
    exact Slot.get?_of_put_other different held
  | @cleared other denoted =>
    have different : slot ≠ other := fun same => apart (by rw [denoted, same])
    exact .inl ((Slot.get?_clear_other different tree).symm.trans held)

theorem Diverge.symm (apart : Diverge tree segments others) : Diverge tree others segments := by
  induction apart with
  | fork apart => exact .fork (Ne.symm apart)
  | deeper one two held _ ih => exact .deeper two one held ih

/-- Where two segments denote different slots there is a container. -/
theorem ne_null_of_apart (apart : slot? segment tree ≠ slot? counter tree) : tree ≠ .null := by
  rintro rfl
  exact apart rfl

theorem Diverge.ne_null (apart : Diverge tree segments others) : tree ≠ .null := by
  cases apart with
  | fork apart => exact ne_null_of_apart apart
  | deeper one => exact ne_null_of_slot? one

theorem eq_of_resolveFrom_null (found : resolveFrom there segments .null = .ok value) : value = .null := by
  cases segments with
  | nil => cases found; rfl
  | cons segment rest => cases found

namespace InPlace

/-- A row of segments that diverges from the edited one diverges from any other as it did before. -/
theorem diverge_after (inPlace : InPlace edit) (one : Diverge tree segments others)
    (two : Diverge tree third others) :
    Diverge (edit here segments tree).after third others := by
  induction two generalizing here segments with
  | @fork tree segment counter rest others apart =>
    have solid := one.ne_null
    obtain ⟨first, more, rfl⟩ := List.exists_cons_of_ne_nil one.ne_nil
    have touched := inPlace.touched here first more solid
    refine .fork ?_
    rw [touched.slot?_eq, touched.slot?_eq]
    exact apart
  | @deeper tree child segment counter rest others slot denoted selects held apart ih =>
    have solid := ne_null_of_slot? denoted
    cases one with
    | @fork _ first _ more _ fork =>
      have touched := inPlace.touched here first more solid
      have kept := touched.get?_other (selects ▸ fork) held
      exact .deeper ((touched.slot?_eq _).trans denoted) ((touched.slot?_eq _).trans selects) kept apart
    | @deeper _ content first _ more _ same first? counter? content? below =>
      cases counter?.symm.trans selects
      cases content?.symm.trans held
      have touched := inPlace.touched here first more solid
      have changed := inPlace.within here first? held below.ne_nil
      exact .deeper ((touched.slot?_eq _).trans denoted) ((touched.slot?_eq _).trans selects) changed
        (ih below)

/-- What is found elsewhere after an edit, and is no null, was there before. -/
theorem resolveFrom_before (inPlace : InPlace edit) (apart : Diverge tree segments others)
    (found : resolveFrom there others (edit here segments tree).after = .ok value) (solid : value ≠ .null) :
    resolveFrom there others tree = .ok value := by
  induction apart generalizing here there with
  | @fork tree segment counter rest _ apart =>
    obtain ⟨slot, child, denoted, held, found⟩ := resolveFrom_cons_eq_ok_iff.mp found
    have touched := inPlace.touched here segment rest (ne_null_of_apart apart)
    have before := (touched.slot?_eq counter).symm.trans denoted
    obtain kept | rfl := touched.get?_of_other (before ▸ apart) held
    · exact resolveFrom_cons_eq_ok_iff.mpr ⟨slot, child, before, kept, found⟩
    · exact absurd (eq_of_resolveFrom_null found) solid
  | @deeper tree child segment counter rest _ slot one two content apart ih =>
    obtain ⟨_, _, denoted, held, found⟩ := resolveFrom_cons_eq_ok_iff.mp found
    have touched := inPlace.touched here segment rest (ne_null_of_slot? one)
    cases two.symm.trans ((touched.slot?_eq counter).symm.trans denoted)
    cases (inPlace.within here one content apart.ne_nil).symm.trans held
    exact resolveFrom_cons_eq_ok_iff.mpr ⟨slot, child, two, content, ih found⟩

end InPlace

end RecordFlow.Path

namespace RecordFlow.Record

variable {record : Record} {path other third : Path} {value : Json}
  {edit : Path → List String → Json → Path.Edit Json}

theorem DivergeIn.symm (apart : record.DivergeIn path other) : record.DivergeIn other path := by
  obtain different | apart := apart
  · exact .inl different.symm
  · by_cases same : path.root = other.root
    · exact .inr (same ▸ apart.symm)
    · exact .inl (Ne.symm same)

theorem divergeIn_editTree (inPlace : Path.InPlace edit) (one : record.DivergeIn path other)
    (two : record.DivergeIn third other) :
    (record.editTree path.root (edit ⟨path.root, []⟩ path.segments)).after.DivergeIn third other := by
  obtain different | two := two
  · exact .inl different
  · by_cases same : path.root = third.root
    · obtain unchanged | changed :=
        tree_editTree_self record path.root (edit ⟨path.root, []⟩ path.segments)
      · exact .inr (by rwa [← same, unchanged, same])
      · by_cases shared : path.root = other.root
        · have one := one.resolve_left fun different => different shared
          refine .inr ?_
          rw [← same] at two ⊢
          rw [changed]
          exact inPlace.diverge_after one two
        · exact .inl (same ▸ shared)
    · exact .inr (by rwa [tree_editTree_other same])

theorem resolve_of_resolve_editTree (inPlace : Path.InPlace edit) (apart : record.DivergeIn path other)
    (found : other.resolve ((record.editTree path.root (edit ⟨path.root, []⟩ path.segments)).after.tree
      other.root) = .ok value) (solid : value ≠ .null) :
    other.resolve (record.tree other.root) = .ok value := by
  by_cases same : path.root = other.root
  · have apart := apart.resolve_left fun different => different same
    rw [← same] at found ⊢
    obtain unchanged | changed :=
      tree_editTree_self record path.root (edit ⟨path.root, []⟩ path.segments)
    · rwa [unchanged] at found
    · rw [changed] at found
      exact inPlace.resolveFrom_before apart found solid
  · rwa [tree_editTree_other same] at found

/-- A path that diverges from an erased one diverges from any other as it did before. -/
theorem divergeIn_erase (one : record.DivergeIn path other) (two : record.DivergeIn third other) :
    (record.erase path).after.DivergeIn third other :=
  divergeIn_editTree Path.inPlace_eraseFrom one two

/-- A write brings nothing but nulls into being at a path that diverges from it. -/
theorem resolve_before_set (apart : record.DivergeIn path other) (content : Json)
    (found : other.resolve ((record.set path content).after.tree other.root) = .ok value)
    (solid : value ≠ .null) : other.resolve (record.tree other.root) = .ok value :=
  resolve_of_resolve_editTree (Path.inPlace_writeFrom content) apart found solid

end RecordFlow.Record
