import Mathlib.Data.List.Basic
import RecordFlow.Text.Pieces

/-!
A text falls into the stretches between the occurrences of a separator, each of which is the first one after the
one before it (`Between`). That settles the stretches (`Between.unique`), and they are what cutting the text gives
(`between_iff`). No stretch holds the separator, however it overlaps itself, for it would have been found there;
and the stretches with a separator between each two are the text again.
-/

namespace RecordFlow.Text

variable {separator text before after more piece : List Char} {first : Char}
  {stretches others : List (List Char)}

/-- The separator stands right after `before` in the text, and nowhere further to the left. -/
structure FirstAt (separator text before after : List Char) : Prop where
  stands : text = before ++ separator ++ after
  first : ∀ earlier later, text = earlier ++ separator ++ later → before.length ≤ earlier.length

/-- The stretches of a text between the leftmost occurrences of a separator that do not overlap. -/
inductive Between (separator : List Char) : List Char → List (List Char) → Prop where
  | last {text : List Char} (absent : ¬separator <:+: text) : Between separator text [text]
  | cut {text before after : List Char} {stretches : List (List Char)}
    (found : FirstAt separator text before after) (rest : Between separator after stretches) :
    Between separator text (before :: stretches)

namespace Between

theorem ne_nil (between : Between separator text stretches) : stretches ≠ [] := by
  cases between <;> exact List.cons_ne_nil _ _

theorem unique (one : Between separator text stretches) (two : Between separator text others) :
    stretches = others := by
  induction one generalizing others with
  | last absent =>
    cases two with
    | last => rfl
    | @cut _ before after _ found =>
      exact absurd ⟨before, after, found.stands.symm⟩ absent
  | @cut _ before after _ found _ ih =>
    cases two with
    | last absent => exact absurd ⟨before, after, found.stands.symm⟩ absent
    | @cut _ again later _ other rest =>
      -- either occurrence is the first one, so they stand at one place
      have length : before.length = again.length :=
        Nat.le_antisymm (found.first again later other.stands) (other.first before after found.stands)
      have same : before ++ separator ++ after = again ++ separator ++ later :=
        found.stands.symm.trans other.stands
      rw [List.append_assoc, List.append_assoc] at same
      obtain ⟨rfl, behind⟩ := List.append_inj same length
      obtain rfl := List.append_cancel_left behind
      rw [ih rest]

theorem intercalate (between : Between separator text stretches) :
    separator.intercalate stretches = text := by
  induction between with
  | last => simp [List.intercalate]
  | cut found rest ih =>
    obtain ⟨next, others, rfl⟩ := List.exists_cons_of_ne_nil rest.ne_nil
    rw [found.stands, ← ih]
    simp [List.intercalate]

theorem excludes (nonempty : separator ≠ []) (between : Between separator text stretches)
    (member : piece ∈ stretches) : ¬separator <:+: piece := by
  induction between with
  | last absent =>
    obtain rfl := List.mem_singleton.mp member
    exact absent
  | @cut _ before after _ found _ ih =>
    obtain rfl | later := List.mem_cons.mp member
    · rintro ⟨left, right, inside⟩
      -- an occurrence inside the stretch begins before the one that ends it
      have earlier := found.first left (right ++ separator ++ after)
        (by rw [found.stands, ← inside]; simp only [List.append_assoc])
      have length := congrArg List.length inside
      have positive := List.length_pos_of_ne_nil nonempty
      simp only [List.length_append] at length
      omega
    · exact ih later

end Between

/-! ### Cutting -/

/-- No separator begins in `piece`, which the text goes on from. -/
def NoneBegins (separator piece text : List Char) : Prop :=
  ∀ earlier later, piece ++ text = earlier ++ separator ++ later → piece.length ≤ earlier.length

theorem noneBegins_concat {c : Char} (none : NoneBegins separator piece (c :: text))
    (notHere : ¬separator <+: c :: text) : NoneBegins separator (piece ++ [c]) text := by
  intro earlier later same
  rw [List.append_assoc, List.singleton_append] at same
  have least := none earlier later same
  rw [List.length_append, List.length_singleton]
  refine Nat.lt_of_le_of_ne least fun equal => notHere ⟨later, ?_⟩
  rw [List.append_assoc] at same
  exact (List.append_inj_right same equal).symm

/-- Cutting goes on behind the stretches that are found, with the piece that is begun. -/
theorem exists_between_piecesFrom (first : Char) (more piece : List Char) (found : List (List Char))
    (text : List Char) (clean : NoneBegins (first :: more) piece.reverse text) :
    ∃ stretches, piecesFrom first more piece found text = found.reverse ++ stretches ∧
      Between (first :: more) (piece.reverse ++ text) stretches := by
  fun_induction piecesFrom first more piece found text with
  | case1 piece found =>
    refine ⟨[piece.reverse], List.reverse_cons, ?_⟩
    rw [List.append_nil]
    refine .last ?_
    rintro ⟨earlier, later, inside⟩
    -- an occurrence needs more room than the piece leaves behind its end
    have least := clean earlier later (by rw [List.append_nil, inside])
    have length := congrArg List.length inside
    simp only [List.length_append, List.length_cons] at length
    omega
  | case2 piece found c rest here ih =>
    obtain ⟨rfl, begins⟩ := here
    obtain ⟨after, rfl⟩ := List.isPrefixOf_iff_prefix.mp begins
    simp only [List.drop_left, List.unattach_reverse, List.unattach_attach] at ih ⊢
    obtain ⟨stretches, made, between⟩ := ih fun _ _ _ => Nat.zero_le _
    refine ⟨piece.reverse :: stretches, ?_, .cut ⟨?_, clean⟩ between⟩
    · rw [made, List.reverse_cons, List.append_assoc, List.singleton_append]
    · simp only [List.append_assoc, List.cons_append, List.reverse_nil, List.nil_append]
  | case3 piece found c rest notHere ih =>
    have absent : ¬first :: more <+: c :: rest := by
      intro begins
      obtain ⟨rfl, others⟩ := List.cons_prefix_cons.mp begins
      exact notHere ⟨rfl, List.isPrefixOf_iff_prefix.mpr others⟩
    rw [List.reverse_cons] at ih
    obtain ⟨stretches, made, between⟩ := ih (noneBegins_concat clean absent)
    exact ⟨stretches, made, by simpa using between⟩

theorem between_piecesBetween (first : Char) (more text : List Char) :
    Between (first :: more) text (piecesBetween first more text) := by
  obtain ⟨stretches, made, between⟩ :=
    exists_between_piecesFrom first more [] [] text fun _ _ _ => Nat.zero_le _
  rw [piecesBetween, made]
  exact between

/-- Cutting a text gives its stretches and nothing else does. -/
theorem between_iff : Between (first :: more) text stretches ↔ piecesBetween first more text = stretches := by
  constructor
  · exact fun between => (between_piecesBetween first more text).unique between
  · rintro rfl
    exact between_piecesBetween first more text

end RecordFlow.Text
