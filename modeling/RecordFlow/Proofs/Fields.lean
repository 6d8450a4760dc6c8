import Mathlib.Data.List.Induction
import Mathlib.Data.String.Basic
import RecordFlow.Fields
import RecordFlow.Proofs.Outcome

/-!
# Laws of fields

Insertions: the last value of a name stays, and insertions of different names may be exchanged. An
erasure touches one name only. `Sorted` is kept by both; it is what makes a name vanish once it is
erased, and go back to its place if it is inserted again. A list that is sorted is the map of its own
entries (`ofList_of_sorted`). Lists that are related entry by entry have maps that are (`Entrywise.ofList`).
-/

namespace RecordFlow.Fields

variable {α : Type} {key other : String} {fields : List (String × α)}

/-! ### Insertions -/

theorem replace_replace (first value : α) (fields : List (String × α)) :
    replace key value (replace key first fields) = replace key value fields := by
  induction fields with
  | nil => rfl
  | cons entry rest ih =>
    obtain ⟨name, old⟩ := entry
    by_cases same : name = key
    · simp [replace, same]
    · simp [replace, same, ih]

theorem replace_place (first value : α) (absent : get? key fields = none) :
    replace key value (place key first fields) = place key value fields := by
  induction fields with
  | nil => simp [place, replace]
  | cons entry rest ih =>
    obtain ⟨name, old⟩ := entry
    by_cases same : name = key
    · simp [get?, same] at absent
    · simp only [get?, same, if_false] at absent
      by_cases before : key < name
      · simp [place, replace, before]
      · simp [place, replace, before, same, ih absent]

theorem insert_of_present (value : α) (present : (get? key fields).isSome) :
    insert key value fields = replace key value fields := if_pos present

theorem insert_of_absent (value : α) (absent : get? key fields = none) :
    insert key value fields = place key value fields :=
  if_neg (Option.not_isSome_iff_eq_none.mpr absent)

theorem get?_insertNew (key other : String) (value : α) (fields : List (String × α)) :
    get? other (insertNew key value fields) = (get? other fields).or (if key = other then some value else none) := by
  unfold insertNew
  by_cases same : key = other
  · subst same
    rw [if_pos rfl]
    cases present : get? key fields with
    | some old => simp [present]
    | none => simp
  · rw [if_neg same, Option.or_none]
    split
    · rfl
    · exact get?_insert_other value fields same

theorem get?_insertNew_other (value : α) (fields : List (String × α)) (different : key ≠ other) :
    get? other (insertNew key value fields) = get? other fields := by
  rw [get?_insertNew, if_neg different, Option.or_none]

theorem insert_get? {value : α} (found : get? key fields = some value) :
    insert key value fields = fields := by
  rw [insert_of_present value (by rw [found]; rfl), replace_get? found]

/-- The last value of a name stays. -/
@[simp] theorem insert_insert (first value : α) (fields : List (String × α)) :
    insert key value (insert key first fields) = insert key value fields := by
  have present : (get? key (insert key first fields)).isSome := by
    rw [get?_insert_self]
    rfl
  rw [insert_of_present value present]
  cases found : get? key fields with
  | none => rw [insert_of_absent first found, insert_of_absent value found, replace_place _ _ found]
  | some old =>
    have had : (get? key fields).isSome := by rw [found]; rfl
    rw [insert_of_present first had, insert_of_present value had, replace_replace]

theorem replace_comm (different : key ≠ other) (value content : α) (fields : List (String × α)) :
    replace key value (replace other content fields) =
      replace other content (replace key value fields) := by
  induction fields with
  | nil => rfl
  | cons entry rest ih =>
    obtain ⟨name, old⟩ := entry
    by_cases one : name = key
    · subst one
      simp [replace, different]
    · by_cases two : name = other
      · simp [replace, two, different.symm]
      · simp [replace, one, two, ih]

theorem replace_place_comm (different : key ≠ other) (value content : α)
    (fields : List (String × α)) :
    replace key value (place other content fields) =
      place other content (replace key value fields) := by
  induction fields with
  | nil => simp [place, replace, different.symm]
  | cons entry rest ih =>
    obtain ⟨name, old⟩ := entry
    by_cases same : name = key
    · subst same
      by_cases before : other < name
      · simp [place, replace, before, different.symm]
      · simp [place, replace, before]
    · by_cases before : other < name
      · simp [place, replace, before, same, different.symm]
      · simp [place, replace, before, same, ih]

theorem place_comm_of_lt (lt : key < other) (value content : α) (fields : List (String × α)) :
    place key value (place other content fields) =
      place other content (place key value fields) := by
  induction fields with
  | nil => simp [place, lt, lt.asymm]
  | cons entry rest ih =>
    obtain ⟨name, old⟩ := entry
    by_cases late : other < name
    · simp [place, late, lt, lt.trans late, lt.asymm]
    · by_cases early : key < name
      · simp [place, late, early, lt.asymm]
      · simp [place, late, early, ih]

theorem place_comm (different : key ≠ other) (value content : α) (fields : List (String × α)) :
    place key value (place other content fields) =
      place other content (place key value fields) := by
  rcases lt_or_gt_of_ne different with lt | gt
  · exact place_comm_of_lt lt value content fields
  · exact (place_comm_of_lt gt content value fields).symm

/-- Insertions of different names may be exchanged. -/
theorem insert_comm (different : key ≠ other) (value content : α) (fields : List (String × α)) :
    insert key value (insert other content fields) =
      insert other content (insert key value fields) := by
  have one := get?_insert_other content fields different.symm
  have two := get?_insert_other value fields different
  unfold insert at one two ⊢
  rw [one, two]
  split <;> split
  · exact replace_comm different value content fields
  · exact replace_place_comm different value content fields
  · exact (replace_place_comm different.symm content value fields).symm
  · exact place_comm different value content fields

/-! ### Erasures -/

theorem get?_erase_other (different : key ≠ other) (fields : List (String × α)) :
    get? other (erase key fields) = get? other fields := by
  induction fields with
  | nil => rfl
  | cons entry rest ih =>
    obtain ⟨name, value⟩ := entry
    by_cases same : name = key
    · simp [erase, get?, same, different]
    · simp [erase, get?, same, ih]

theorem erase_of_absent (absent : get? key fields = none) : erase key fields = fields := by
  induction fields with
  | nil => rfl
  | cons entry rest ih =>
    obtain ⟨name, value⟩ := entry
    by_cases same : name = key
    · simp [get?, same] at absent
    · simp only [get?, same, if_false] at absent
      simp [erase, same, ih absent]

theorem erase_sublist (key : String) (fields : List (String × α)) :
    (erase key fields).Sublist fields := by
  induction fields with
  | nil => exact .slnil
  | cons entry rest ih =>
    obtain ⟨name, value⟩ := entry
    by_cases same : name = key
    · simp [erase, same]
    · simpa [erase, same] using ih

/-! ### The order of names -/

theorem get?_eq_none_iff : get? key fields = none ↔ key ∉ fields.map Prod.fst := by
  induction fields with
  | nil => simp [get?]
  | cons entry rest ih =>
    obtain ⟨name, value⟩ := entry
    by_cases same : name = key
    · simp [get?, same]
    · simp [get?, same, ih, Ne.symm same]

theorem nodup_of_sorted (sorted : Sorted fields) : (fields.map Prod.fst).Nodup :=
  List.Pairwise.imp ne_of_lt sorted

/-- No name is left twice, so an erased one is gone. -/
theorem get?_erase_self (sorted : Sorted fields) : get? key (erase key fields) = none := by
  induction fields with
  | nil => rfl
  | cons entry rest ih =>
    obtain ⟨name, value⟩ := entry
    obtain ⟨first, others⟩ := List.pairwise_cons.mp sorted
    by_cases same : name = key
    · subst same
      simp only [erase, if_true]
      exact get?_eq_none_iff.mpr fun member => lt_irrefl _ (first _ member)
    · simp [erase, get?, same, ih others]

theorem sorted_erase (sorted : Sorted fields) : Sorted (erase key fields) :=
  sorted.sublist ((erase_sublist key fields).map Prod.fst)

theorem names_replace (key : String) (value : α) (fields : List (String × α)) :
    (replace key value fields).map Prod.fst = fields.map Prod.fst := by
  induction fields with
  | nil => rfl
  | cons entry rest ih =>
    obtain ⟨name, old⟩ := entry
    by_cases same : name = key
    · simp [replace, same]
    · simp [replace, same, ih]

theorem mem_replace {entry : String × α} {value : α} (member : entry ∈ replace key value fields) :
    entry = (key, value) ∨ entry ∈ fields := by
  induction fields with
  | nil => cases member
  | cons head rest ih =>
    obtain ⟨name, old⟩ := head
    by_cases same : name = key
    · subst same
      simp only [replace, if_true, List.mem_cons] at member ⊢
      exact member.imp_right .inr
    · simp only [replace, same, if_false, List.mem_cons] at member ⊢
      rcases member with first | later
      · exact .inr (.inl first)
      · exact (ih later).imp_right .inr

theorem mem_place {entry : String × α} {value : α} (member : entry ∈ place key value fields) :
    entry = (key, value) ∨ entry ∈ fields := by
  induction fields with
  | nil => simpa [place] using member
  | cons head rest ih =>
    obtain ⟨name, old⟩ := head
    by_cases before : key < name
    · simpa [place, before] using member
    · simp only [place, before, if_false, List.mem_cons] at member ⊢
      rcases member with first | later
      · exact .inr (.inl first)
      · exact (ih later).imp_right .inr

theorem mem_insert {entry : String × α} {value : α} (member : entry ∈ insert key value fields) :
    entry = (key, value) ∨ entry ∈ fields := by
  unfold insert at member
  split at member
  · exact mem_replace member
  · exact mem_place member

theorem sorted_place (value : α) (absent : get? key fields = none) (sorted : Sorted fields) :
    Sorted (place key value fields) := by
  induction fields with
  | nil => simp [Sorted, place]
  | cons entry rest ih =>
    obtain ⟨name, old⟩ := entry
    obtain ⟨first, others⟩ := List.pairwise_cons.mp sorted
    by_cases same : name = key
    · simp [get?, same] at absent
    · simp only [get?, same, if_false] at absent
      by_cases before : key < name
      · simp only [place, before, if_true]
        refine List.pairwise_cons.mpr ⟨?_, sorted⟩
        intro later member
        rcases List.mem_cons.mp member with rfl | member
        · exact before
        · exact before.trans (first later member)
      · simp only [place, before, if_false]
        refine List.pairwise_cons.mpr ⟨?_, ih absent others⟩
        intro later member
        obtain ⟨⟨_, content⟩, held, rfl⟩ := List.mem_map.mp member
        rcases mem_place held with fresh | held
        · cases fresh
          exact lt_of_le_of_ne (not_lt.mp before) same
        · exact first _ (List.mem_map_of_mem held)

theorem place_erase {value : α} (sorted : Sorted fields) (found : get? key fields = some value) :
    place key value (erase key fields) = fields := by
  induction fields with
  | nil => cases found
  | cons entry rest ih =>
    obtain ⟨name, old⟩ := entry
    obtain ⟨first, others⟩ := List.pairwise_cons.mp sorted
    by_cases same : name = key
    · subst same
      simp only [get?, if_true, Option.some.injEq] at found
      subst found
      simp only [erase, if_true]
      cases rest with
      | nil => rfl
      | cons next rest =>
        have before : name < next.1 := first next.1 List.mem_cons_self
        simp only [place, before, if_true]
    · simp only [get?, same, if_false] at found
      have member : key ∈ rest.map Prod.fst := by
        by_contra absent
        rw [get?_eq_none_iff.mpr absent] at found
        cases found
      have late : ¬key < name := (first key member).asymm
      simp only [erase, same, if_false, place, late, ih others found]

/-- A name that was erased goes back where it was. -/
theorem insert_erase {value : α} (sorted : Sorted fields) (found : get? key fields = some value) :
    insert key value (erase key fields) = fields := by
  rw [insert_of_absent value (get?_erase_self sorted), place_erase sorted found]

theorem sorted_insert (value : α) (sorted : Sorted fields) : Sorted (insert key value fields) := by
  cases found : get? key fields with
  | none =>
    rw [insert_of_absent value found]
    exact sorted_place value found sorted
  | some old =>
    rw [insert_of_present value (by rw [found]; rfl), Sorted, names_replace]
    exact sorted

/-! ### The map of a list -/

theorem ofList_concat (entries : List (String × α)) (key : String) (value : α) :
    ofList (entries ++ [(key, value)]) = insert key value (ofList entries) := by
  rw [ofList, List.foldl_append]
  rfl

theorem sorted_ofList (entries : List (String × α)) : Sorted (ofList entries) := by
  induction entries using List.reverseRecOn with
  | nil => exact .nil
  | append_singleton entries entry ih =>
    rw [ofList_concat]
    exact sorted_insert entry.2 ih

theorem mem_ofList {entries : List (String × α)} {entry : String × α} (member : entry ∈ ofList entries) :
    entry ∈ entries := by
  induction entries using List.reverseRecOn with
  | nil => exact member
  | append_singleton entries last ih =>
    rw [ofList_concat] at member
    obtain rfl | early := mem_insert member
    · exact List.mem_append_right entries List.mem_cons_self
    · exact List.mem_append_left _ (ih early)

theorem place_last {value : α} (late : ∀ name ∈ fields.map Prod.fst, name < key) :
    place key value fields = fields ++ [(key, value)] := by
  induction fields with
  | nil => rfl
  | cons entry rest ih =>
    obtain ⟨name, old⟩ := entry
    obtain ⟨first, others⟩ := List.forall_mem_cons.mp late
    rw [place, if_neg first.asymm, ih others]
    rfl

theorem ofList_of_sorted (sorted : Sorted fields) : ofList fields = fields := by
  induction fields using List.reverseRecOn with
  | nil => rfl
  | append_singleton fields entry ih =>
    obtain ⟨key, value⟩ := entry
    rw [Sorted, List.map_append, List.pairwise_append] at sorted
    obtain ⟨early, -, late⟩ := sorted
    have after : ∀ name ∈ fields.map Prod.fst, name < key := fun name member =>
      late name member key List.mem_cons_self
    have absent : get? key fields = none :=
      get?_eq_none_iff.mpr fun member => lt_irrefl key (after key member)
    rw [ofList_concat, ih early, insert_of_absent value absent, place_last after]

theorem get?_append_singleton (absent : other ∉ fields.map Prod.fst) (key : String) (value : α) :
    get? key (fields ++ [(other, value)]) = if other = key then some value else get? key fields := by
  induction fields with
  | nil => rfl
  | cons entry rest ih =>
    obtain ⟨name, old⟩ := entry
    rw [List.map_cons, List.mem_cons, not_or] at absent
    rw [List.cons_append, get?, get?, ih absent.2]
    split
    · rename_i same
      rw [if_neg (fun here => absent.1 (here.trans same.symm))]
    · rfl

/-- If no name comes twice, the map finds what the list holds. -/
theorem get?_ofList (once : (fields.map Prod.fst).Nodup) (key : String) :
    get? key (ofList fields) = get? key fields := by
  induction fields using List.reverseRecOn with
  | nil => rfl
  | append_singleton fields entry ih =>
    obtain ⟨name, value⟩ := entry
    rw [List.map_append, List.map_singleton, List.nodup_append] at once
    have absent : name ∉ fields.map Prod.fst := fun member =>
      once.2.2 name member name List.mem_cons_self rfl
    rw [ofList_concat, get?_append_singleton absent, ← ih once.1]
    split
    · rename_i same
      rw [same, get?_insert_self]
    · rename_i different
      exact get?_insert_other value _ different

/-! ### Maps entry by entry -/

section Entrywise

variable {β : Type} {related : α → β → Prop} {before : List (String × α)} {others beforeToo : List (String × β)}
  {value : α} {content : β}

/-- The entries have the same names in the same order, and related values. -/
def Entrywise (related : α → β → Prop) : List (String × α) → List (String × β) → Prop :=
  List.Forall₂ fun one other => one.1 = other.1 ∧ related one.2 other.2

theorem exists_entrywise (each : ∀ entry ∈ fields, ∃ content, related entry.2 content) :
    ∃ others, Entrywise related fields others := by
  refine exists_forall₂_iff.mpr ?_
  intro entry member
  obtain ⟨content, one⟩ := each entry member
  exact ⟨(entry.1, content), rfl, one⟩

theorem entrywise_iff :
    Entrywise related fields others ↔
      fields.map Prod.fst = others.map Prod.fst ∧
        List.Forall₂ related (fields.map Prod.snd) (others.map Prod.snd) := by
  rw [List.forall₂_map_left_iff, List.forall₂_map_right_iff]
  constructor
  · intro each
    induction each with
    | nil => exact ⟨rfl, .nil⟩
    | cons one _ ih => exact ⟨congrArg₂ List.cons one.1 ih.1, .cons one.2 ih.2⟩
  · rintro ⟨names, each⟩
    induction each with
    | nil => exact .nil
    | cons one _ ih =>
      obtain ⟨name, names⟩ := List.cons.inj names
      exact .cons ⟨name, one⟩ (ih names)

namespace Entrywise

theorem imp {weaker : α → β → Prop} (follows : ∀ value content, related value content → weaker value content)
    (each : Entrywise related fields others) : Entrywise weaker fields others :=
  List.Forall₂.imp (fun _ _ one => ⟨one.1, follows _ _ one.2⟩) each

theorem exists_between {γ : Type} {first : α → γ → Prop} {second : β → γ → Prop}
    (each : Entrywise (fun value content => ∃ between, first value between ∧ second content between) fields others) :
    ∃ betweens, Entrywise first fields betweens ∧ Entrywise second others betweens := by
  refine exists_forall₂_between (List.Forall₂.imp ?_ each)
  rintro entry other ⟨same, between, left, right⟩
  exact ⟨(entry.1, between), ⟨rfl, left⟩, same.symm, right⟩

theorem isSome_get? (each : Entrywise related fields others) (key : String) :
    (get? key fields).isSome = (get? key others).isSome := by
  induction each with
  | nil => rfl
  | cons one _ ih =>
    rw [get?, get?, one.1]
    split
    · rfl
    · exact ih

theorem replace (each : Entrywise related fields others) (key : String) (new : related value content) :
    Entrywise related (Fields.replace key value fields) (Fields.replace key content others) := by
  induction each with
  | nil => exact .nil
  | cons one rest ih =>
    rw [Fields.replace, Fields.replace, one.1]
    split
    · exact .cons ⟨rfl, new⟩ rest
    · exact .cons ⟨rfl, one.2⟩ ih

theorem place (each : Entrywise related fields others) (key : String) (new : related value content) :
    Entrywise related (Fields.place key value fields) (Fields.place key content others) := by
  induction each with
  | nil => exact .cons ⟨rfl, new⟩ .nil
  | cons one rest ih =>
    rw [Fields.place, Fields.place, one.1]
    split
    · exact .cons ⟨rfl, new⟩ (.cons ⟨rfl, one.2⟩ rest)
    · exact .cons ⟨rfl, one.2⟩ ih

theorem insert (each : Entrywise related fields others) (key : String) (new : related value content) :
    Entrywise related (Fields.insert key value fields) (Fields.insert key content others) := by
  rw [Fields.insert, Fields.insert, each.isSome_get? key]
  split
  · exact each.replace key new
  · exact each.place key new

theorem foldl_insert (start : Entrywise related before beforeToo) (each : Entrywise related fields others) :
    Entrywise related (fields.foldl (fun fields entry => Fields.insert entry.1 entry.2 fields) before)
      (others.foldl (fun fields entry => Fields.insert entry.1 entry.2 fields) beforeToo) := by
  induction each generalizing before beforeToo with
  | nil => exact start
  | cons one _ ih =>
    rw [List.foldl_cons, List.foldl_cons, one.1]
    exact ih (start.insert _ one.2)

theorem ofList (each : Entrywise related fields others) :
    Entrywise related (Fields.ofList fields) (Fields.ofList others) := foldl_insert .nil each

end Entrywise

end Entrywise

end RecordFlow.Fields
