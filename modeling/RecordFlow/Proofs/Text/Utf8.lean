import Mathlib.Data.List.Basic

/-!
What the UTF-8 form of a text looks like, told in bytes alone: they fall into groups of one to four, and the first
byte of a group says how many there are (`Utf8Group`). The groups are the forms of the characters
(`utf8Group_iff`), so the bytes that fall into groups are those that can be read as a text (`isValidUTF8_iff`).
-/

namespace RecordFlow.Text

/-- A byte with which a group goes on. -/
def IsTrailing (b : UInt8) : Prop := 0x80 ≤ b ∧ b ≤ 0xBF

/-- The bytes of one character. None is written with more bytes than it needs, so `0xC0` and `0xC1` begin no group
and `0xE0` and `0xF0` want a larger second byte. After `0xED` a larger one would make a surrogate, and after `0xF4`
a number that no character has. -/
inductive Utf8Group : List UInt8 → Prop where
  | one {a : UInt8} (first : a ≤ 0x7F) : Utf8Group [a]
  | two {a b : UInt8} (first : 0xC2 ≤ a ∧ a ≤ 0xDF) (second : IsTrailing b) : Utf8Group [a, b]
  | three {a b c : UInt8} (first : 0xE0 ≤ a ∧ a ≤ 0xEF) (second : IsTrailing b)
    (shortest : a = 0xE0 → 0xA0 ≤ b) (noSurrogate : a = 0xED → b ≤ 0x9F) (third : IsTrailing c) :
    Utf8Group [a, b, c]
  | four {a b c d : UInt8} (first : 0xF0 ≤ a ∧ a ≤ 0xF4) (second : IsTrailing b)
    (shortest : a = 0xF0 → 0x90 ≤ b) (inRange : a = 0xF4 → b ≤ 0x8F) (third : IsTrailing c)
    (fourth : IsTrailing d) : Utf8Group [a, b, c, d]

/-- Bytes that fall into groups. -/
def IsUtf8 (bytes : List UInt8) : Prop :=
  ∃ groups : List (List UInt8), (∀ group ∈ groups, Utf8Group group) ∧ bytes = groups.flatten

theorem utf8Group_encode (c : Char) : Utf8Group (String.utf8EncodeChar c) := by
  have valid := c.valid
  simp only [UInt32.isValidChar, Nat.isValidChar] at valid
  unfold String.utf8EncodeChar
  dsimp only
  generalize c.val.toNat = v at valid ⊢
  split
  · refine .one ?_
    simp only [UInt8.le_iff_toNat_le, UInt8.toNat_ofNat', UInt8.reduceToNat]
    omega
  · split
    · refine .two ⟨?_, ?_⟩ ⟨?_, ?_⟩ <;>
        simp only [UInt8.le_iff_toNat_le, UInt8.toNat_ofNat', UInt8.reduceToNat] <;> omega
    · split
      · refine .three ⟨?_, ?_⟩ ⟨?_, ?_⟩ ?_ ?_ ⟨?_, ?_⟩ <;>
          simp only [UInt8.le_iff_toNat_le, ← UInt8.toNat_inj, UInt8.toNat_ofNat', UInt8.reduceToNat] <;> omega
      · refine .four ⟨?_, ?_⟩ ⟨?_, ?_⟩ ?_ ?_ ⟨?_, ?_⟩ ⟨?_, ?_⟩ <;>
          simp only [UInt8.le_iff_toNat_le, ← UInt8.toNat_inj, UInt8.toNat_ofNat', UInt8.reduceToNat] <;> omega

theorem eq_ofNat {b : UInt8} {n : Nat} (same : b.toNat = n) : b = UInt8.ofNat n := by
  rw [← same, UInt8.ofNat_toNat]

theorem exists_char_of_group {bytes : List UInt8} (group : Utf8Group bytes) :
    ∃ c, bytes = String.utf8EncodeChar c := by
  -- the number of the character is put together from the bytes without their marks
  have numbered (v : Nat) (valid : v.isValidChar) : ∃ c : Char, c.val.toNat = v :=
    ⟨Char.ofNatAux v valid, rfl⟩
  cases group with
  | @one a first =>
    simp only [UInt8.le_iff_toNat_le, UInt8.reduceToNat] at first
    obtain ⟨c, number⟩ := numbered a.toNat (by unfold Nat.isValidChar; omega)
    refine ⟨c, ?_⟩
    simp only [String.utf8EncodeChar, number, if_pos first, UInt8.ofNat_toNat]
  | @two a b first second =>
    simp only [IsTrailing, UInt8.le_iff_toNat_le, UInt8.reduceToNat] at first second
    obtain ⟨c, number⟩ := numbered ((a.toNat - 0xC0) * 64 + (b.toNat - 0x80))
      (by unfold Nat.isValidChar; omega)
    refine ⟨c, ?_⟩
    simp only [String.utf8EncodeChar, number]
    rw [if_neg (by omega), if_pos (by omega), ← eq_ofNat (b := a) (by omega), ← eq_ofNat (b := b) (by omega)]
  | @three a b c first second shortest noSurrogate third =>
    simp only [IsTrailing, UInt8.le_iff_toNat_le, ← UInt8.toNat_inj, UInt8.reduceToNat]
      at first second shortest noSurrogate third
    obtain ⟨x, number⟩ := numbered ((a.toNat - 0xE0) * 4096 + (b.toNat - 0x80) * 64 + (c.toNat - 0x80))
      (by unfold Nat.isValidChar; omega)
    refine ⟨x, ?_⟩
    simp only [String.utf8EncodeChar, number]
    rw [if_neg (by omega), if_neg (by omega), if_pos (by omega), ← eq_ofNat (b := a) (by omega),
      ← eq_ofNat (b := b) (by omega), ← eq_ofNat (b := c) (by omega)]
  | @four a b c d first second shortest inRange third fourth =>
    simp only [IsTrailing, UInt8.le_iff_toNat_le, ← UInt8.toNat_inj, UInt8.reduceToNat]
      at first second shortest inRange third fourth
    obtain ⟨x, number⟩ := numbered ((a.toNat - 0xF0) * 262144 + (b.toNat - 0x80) * 4096 +
      (c.toNat - 0x80) * 64 + (d.toNat - 0x80)) (by unfold Nat.isValidChar; omega)
    refine ⟨x, ?_⟩
    simp only [String.utf8EncodeChar, number]
    rw [if_neg (by omega), if_neg (by omega), if_neg (by omega), ← eq_ofNat (b := a) (by omega),
      ← eq_ofNat (b := b) (by omega), ← eq_ofNat (b := c) (by omega), ← eq_ofNat (b := d) (by omega)]

/-- Groups are the bytes of characters. -/
theorem utf8Group_iff {bytes : List UInt8} : Utf8Group bytes ↔ ∃ c, bytes = String.utf8EncodeChar c := by
  constructor
  · exact exists_char_of_group
  · rintro ⟨c, rfl⟩
    exact utf8Group_encode c

theorem isUtf8_iff_exists_chars {bytes : List UInt8} :
    IsUtf8 bytes ↔ ∃ chars : List Char, bytes = chars.flatMap String.utf8EncodeChar := by
  constructor
  · rintro ⟨groups, each, rfl⟩
    induction groups with
    | nil => exact ⟨[], rfl⟩
    | cons group rest ih =>
      obtain ⟨one, others⟩ := List.forall_mem_cons.mp each
      obtain ⟨c, rfl⟩ := utf8Group_iff.mp one
      obtain ⟨chars, later⟩ := ih others
      exact ⟨c :: chars, by rw [List.flatten_cons, later, List.flatMap_cons]⟩
  · rintro ⟨chars, rfl⟩
    refine ⟨chars.map String.utf8EncodeChar, ?_, List.flatMap_def⟩
    exact List.forall_mem_map.mpr fun c _ => utf8Group_encode c

/-- Bytes that fall into groups are those that a text is written with. -/
theorem isValidUTF8_iff {bytes : ByteArray} : bytes.IsValidUTF8 ↔ IsUtf8 bytes.data.toList := by
  rw [isUtf8_iff_exists_chars]
  constructor
  · rintro ⟨chars, rfl⟩
    exact ⟨chars, by rw [List.utf8Encode, List.data_toByteArray]⟩
  · rintro ⟨chars, same⟩
    refine ⟨chars, ByteArray.ext ?_⟩
    rw [List.utf8Encode, List.data_toByteArray, ← same]

end RecordFlow.Text
