import RecordFlow.Json.Basic
import RecordFlow.Text.Numeral

/-!
`Throughout holds tree` says that `holds` is true of the tree and of everything in it. Four such
properties are named: objects are maps (`WellFormed`), arrays are shorter than half of what a 64-bit word
can count (`ShortArrays`), numbers are whole numbers of 64-bit words or finite doubles
(`NumbersInRange`), and the whole numbers are those of a signed word (`SignedIntegers`).
-/

namespace RecordFlow.Json

def isContainer : Json → Bool
  | array _ => true
  | object _ => true
  | _ => false

def children : Json → List Json
  | array items => items
  | object fields => fields.map Prod.snd
  | _ => []

inductive Throughout (holds : Json → Prop) : Json → Prop where
  | intro {tree : Json} (here : holds tree)
      (inside : ∀ child ∈ tree.children, Throughout holds child) : Throughout holds tree

theorem throughout_iff {holds : Json → Prop} {tree : Json} :
    Throughout holds tree ↔ holds tree ∧ ∀ child ∈ tree.children, Throughout holds child := by
  constructor
  · intro all
    cases all with
    | intro here inside => exact ⟨here, inside⟩
  · rintro ⟨here, inside⟩
    exact .intro here inside

theorem Throughout.and {first second : Json → Prop} {tree : Json} (one : Throughout first tree)
    (two : Throughout second tree) : Throughout (fun tree => first tree ∧ second tree) tree := by
  induction one with
  | intro here _ ih =>
    obtain ⟨also, inside⟩ := throughout_iff.mp two
    exact .intro ⟨here, also⟩ fun child member => ih child member (inside child member)

section Shapes

variable {holds : Json → Prop}

@[simp] theorem throughout_array {items : List Json} :
    Throughout holds (array items) ↔ holds (array items) ∧ ∀ item ∈ items, Throughout holds item :=
  throughout_iff

@[simp] theorem throughout_object {fields : List (String × Json)} :
    Throughout holds (object fields) ↔
      holds (object fields) ∧ ∀ entry ∈ fields, Throughout holds entry.2 := by
  rw [throughout_iff, children, List.forall_mem_map]

theorem throughout_of_not_isContainer {tree : Json} (bare : tree.isContainer = false) :
    Throughout holds tree ↔ holds tree := by
  cases tree with
  | array | object => cases bare
  | null | bool | number | string =>
    rw [throughout_iff]
    exact and_iff_left fun child member => nomatch member

@[simp] theorem throughout_null : Throughout holds null ↔ holds null :=
  throughout_of_not_isContainer rfl

@[simp] theorem throughout_bool {b : Bool} : Throughout holds (bool b) ↔ holds (bool b) :=
  throughout_of_not_isContainer rfl

@[simp] theorem throughout_number {n : Number} : Throughout holds (number n) ↔ holds (number n) :=
  throughout_of_not_isContainer rfl

@[simp] theorem throughout_string {s : String} : Throughout holds (string s) ↔ holds (string s) :=
  throughout_of_not_isContainer rfl

end Shapes

/-- The names of an object strictly increase. -/
def HasSortedNames : Json → Prop
  | object fields => Fields.Sorted fields
  | _ => True

/-- Every object in the tree is a map. -/
def WellFormed (tree : Json) : Prop := Throughout HasSortedNames tree

def IsShort : Json → Prop
  | array items => items.length < Text.halfWord
  | _ => True

def ShortArrays (tree : Json) : Prop := Throughout IsShort tree

/-- The numbers there are: whole ones of a signed or unsigned 64-bit word, and finite doubles. -/
def Number.InRange : Number → Prop
  | integer n => Text.minInt64 ≤ n ∧ n < Text.wordSize
  | float x => x.isFinite

def HasNumberInRange : Json → Prop
  | number n => n.InRange
  | _ => True

def NumbersInRange (tree : Json) : Prop := Throughout HasNumberInRange tree

/-- A whole number is one of a signed 64-bit word. -/
def HasSignedInteger : Json → Prop
  | number (.integer n) => Text.fitsInt64 n
  | _ => True

def SignedIntegers (tree : Json) : Prop := Throughout HasSignedInteger tree

theorem mem_children_of_get? {key : String} {fields : List (String × Json)} {child : Json}
    (found : Fields.get? key fields = some child) : child ∈ (object fields).children := by
  induction fields with
  | nil => cases found
  | cons entry rest ih =>
    obtain ⟨name, value⟩ := entry
    simp only [children, List.map_cons, List.mem_cons]
    by_cases same : name = key
    · simp only [Fields.get?, same, if_true, Option.some.injEq] at found
      exact .inl found.symm
    · simp only [Fields.get?, same, if_false] at found
      exact .inr (ih found)

end RecordFlow.Json
