/-! Finite maps from names to values, as lists whose names strictly increase: equal maps are equal lists. -/

namespace RecordFlow.Fields

variable {α β : Type}

def Sorted (fields : List (String × α)) : Prop := (fields.map Prod.fst).Pairwise (· < ·)

def get? (key : String) : List (String × α) → Option α
  | [] => none
  | (name, value) :: rest => if name = key then some value else get? key rest

def replace (key : String) (value : α) : List (String × α) → List (String × α)
  | [] => []
  | (name, old) :: rest =>
    if name = key then (name, value) :: rest else (name, old) :: replace key value rest

def place (key : String) (value : α) : List (String × α) → List (String × α)
  | [] => [(key, value)]
  | (name, old) :: rest =>
    if key < name then (key, value) :: (name, old) :: rest else (name, old) :: place key value rest

def insert (key : String) (value : α) (fields : List (String × α)) : List (String × α) :=
  if (get? key fields).isSome then replace key value fields else place key value fields

def erase (key : String) : List (String × α) → List (String × α)
  | [] => []
  | (name, value) :: rest => if name = key then rest else (name, value) :: erase key rest

/-- The map of a list of entries, the last entry of a name winning. -/
def ofList (entries : List (String × α)) : List (String × α) :=
  entries.foldl (fun fields entry => insert entry.1 entry.2 fields) []

def insertNew (key : String) (value : α) (fields : List (String × α)) : List (String × α) :=
  if (get? key fields).isSome then fields else insert key value fields

theorem get?_replace_self {key : String} (value : α) {fields : List (String × α)}
    (present : (get? key fields).isSome) : get? key (replace key value fields) = some value := by
  induction fields with
  | nil => simp [get?] at present
  | cons entry rest ih =>
    obtain ⟨name, old⟩ := entry
    by_cases same : name = key
    · simp [replace, get?, same]
    · simp only [get?, same, if_false] at present
      simp [replace, get?, same, ih present]

theorem get?_replace_other {key other : String} (value : α) (fields : List (String × α))
    (different : key ≠ other) : get? other (replace key value fields) = get? other fields := by
  induction fields with
  | nil => rfl
  | cons entry rest ih =>
    obtain ⟨name, old⟩ := entry
    by_cases same : name = key
    · simp [replace, get?, same, different]
    · simp [replace, get?, same, ih]

theorem replace_get? {key : String} {value : α} {fields : List (String × α)}
    (found : get? key fields = some value) : replace key value fields = fields := by
  induction fields with
  | nil => rfl
  | cons entry rest ih =>
    obtain ⟨name, old⟩ := entry
    by_cases same : name = key
    · simp only [get?, same, if_true, Option.some.injEq] at found
      simp [replace, same, found]
    · simp only [get?, same, if_false] at found
      simp [replace, same, ih found]

theorem get?_place_self {key : String} (value : α) {fields : List (String × α)}
    (absent : get? key fields = none) : get? key (place key value fields) = some value := by
  induction fields with
  | nil => simp [place, get?]
  | cons entry rest ih =>
    obtain ⟨name, old⟩ := entry
    by_cases same : name = key
    · simp [get?, same] at absent
    · simp only [get?, same, if_false] at absent
      by_cases before : key < name
      · simp [place, get?, before]
      · simp [place, get?, before, same, ih absent]

theorem get?_place_other {key other : String} (value : α) (fields : List (String × α))
    (different : key ≠ other) : get? other (place key value fields) = get? other fields := by
  induction fields with
  | nil => simp [place, get?, different]
  | cons entry rest ih =>
    obtain ⟨name, old⟩ := entry
    by_cases before : key < name
    · simp [place, get?, before, different]
    · simp [place, get?, before, ih]

@[simp] theorem get?_insert_self (key : String) (value : α) (fields : List (String × α)) :
    get? key (insert key value fields) = some value := by
  unfold insert
  split
  · exact get?_replace_self value ‹_›
  · exact get?_place_self value (Option.not_isSome_iff_eq_none.mp ‹_›)

@[simp] theorem get?_insert_other {key other : String} (value : α) (fields : List (String × α))
    (different : key ≠ other) : get? other (insert key value fields) = get? other fields := by
  unfold insert
  split
  · exact get?_replace_other value fields different
  · exact get?_place_other value fields different

end RecordFlow.Fields
