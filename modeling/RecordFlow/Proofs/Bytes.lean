import RecordFlow.Field
import RecordFlow.Proofs.Text.Utf8

/-!
A tree gives back the bytes that were stored in it, whether they are valid UTF-8 or not (`toBytes_ofBytes`).
Strings and rows of bytes that are no text are the only trees that come back from their bytes, every other one
comes back as a string (`bytes_survive_storage`).
-/

namespace RecordFlow.Json

theorem toList_loop (bytes : ByteArray) (i : Nat) (found : List UInt8) :
    ByteArray.toList.loop bytes i found = found.reverse ++ bytes.data.toList.drop i := by
  fun_induction ByteArray.toList.loop bytes i found with
  | case1 i found inside ih =>
    have within : i < bytes.data.toList.length := by simpa using inside
    have byte : bytes.get! i = bytes.data.toList[i] := by
      rw [Array.getElem_toList]
      exact getElem!_pos bytes.data i inside
    rw [ih, List.drop_eq_getElem_cons within, byte]
    simp
  | case2 i found outside =>
    have past : bytes.data.toList.length ≤ i := by simpa using outside
    simp [List.drop_eq_nil_of_le past]

theorem toList_eq_data (bytes : ByteArray) : bytes.toList = bytes.data.toList := by
  rw [ByteArray.toList, toList_loop]
  rfl

theorem byte?_ofInt (b : UInt8) : byte? (ofInt b.toNat) = some b := by
  have bound : b.toNat < 256 := b.toNat_lt
  have range : (0 : Int) ≤ b.toNat ∧ (b.toNat : Int) < 256 := by omega
  simp only [ofInt, byte?, if_pos range, Int.toNat_natCast, UInt8.ofNat_toNat]

theorem mapM_byte? (bytes : List UInt8) :
    (bytes.map fun b => ofInt b.toNat).mapM byte? = some bytes := by
  induction bytes with
  | nil => rfl
  | cons b rest ih => simp [byte?_ofInt, ih]

/-- Text is kept as a string, and other bytes as a row of numbers: both give the bytes back. -/
theorem toBytes_ofBytes (bytes : ByteArray) : (ofBytes bytes).toBytes = bytes := by
  unfold ofBytes
  split
  · rename_i text read
    unfold String.fromUTF8? at read
    split at read
    · cases read
      rfl
    · cases read
  · simp only [toBytes, mapM_byte?, toList_eq_data]

/-! ### Trees that hold bytes -/

/-- An array of numbers from 0 to 255. -/
def ofNumbers (bytes : List UInt8) : Json := array (bytes.map fun b => ofInt b.toNat)

/-- The tree is one that bytes are stored as: a string, or an array of bytes that are no text. -/
def IsStored (tree : Json) : Prop :=
  (∃ text, tree = string text) ∨ ∃ bytes, ¬Text.IsUtf8 bytes ∧ tree = ofNumbers bytes

theorem ofBytes_toUTF8 (text : String) : ofBytes text.toUTF8 = string text := by
  have decoded : String.fromUTF8? text.toUTF8 = some text := by
    rw [String.toUTF8_eq_toByteArray, String.fromUTF8?, dif_pos text.isValidUTF8]
    rfl
  rw [ofBytes, decoded]

theorem ofBytes_of_not_isUtf8 {bytes : ByteArray} (noText : ¬Text.IsUtf8 bytes.data.toList) :
    ofBytes bytes = ofNumbers bytes.data.toList := by
  have refused : String.fromUTF8? bytes = none := by
    rw [String.fromUTF8?, dif_neg (Text.isValidUTF8_iff.not.mpr noText)]
  rw [ofBytes, refused, ofNumbers, toList_eq_data]

theorem exists_ofBytes_of_isUtf8 {bytes : ByteArray} (isText : Text.IsUtf8 bytes.data.toList) :
    ∃ text, ofBytes bytes = string text ∧ bytes = text.toUTF8 :=
  have valid := Text.isValidUTF8_iff.mpr isText
  ⟨String.fromUTF8 bytes valid, by rw [← ofBytes_toUTF8]; rfl, rfl⟩

theorem exists_ofBytes_eq_string_iff {bytes : ByteArray} :
    (∃ text, ofBytes bytes = string text) ↔ Text.IsUtf8 bytes.data.toList := by
  constructor
  · rintro ⟨text, stored⟩
    by_contra noText
    rw [ofBytes_of_not_isUtf8 noText] at stored
    cases stored
  · intro isText
    obtain ⟨text, stored, -⟩ := exists_ofBytes_of_isUtf8 isText
    exact ⟨text, stored⟩

theorem toBytes_ofNumbers (bytes : List UInt8) : (ofNumbers bytes).toBytes = ⟨bytes.toArray⟩ := by
  rw [ofNumbers, toBytes, mapM_byte?]

theorem ofBytes_toBytes_of_isStored {tree : Json} (stored : tree.IsStored) : ofBytes tree.toBytes = tree := by
  obtain ⟨text, rfl⟩ | ⟨bytes, noText, rfl⟩ := stored
  · exact ofBytes_toUTF8 text
  · rw [toBytes_ofNumbers, ofBytes_of_not_isUtf8 noText]

theorem isStored_ofBytes (bytes : ByteArray) : (ofBytes bytes).IsStored := by
  by_cases isText : Text.IsUtf8 bytes.data.toList
  · obtain ⟨text, stored, -⟩ := exists_ofBytes_of_isUtf8 isText
    exact .inl ⟨text, stored⟩
  · exact .inr ⟨bytes.data.toList, isText, ofBytes_of_not_isUtf8 isText⟩

theorem eq_ofInt_of_byte? {item : Json} {b : UInt8} (read : item.byte? = some b) : item = ofInt b.toNat := by
  unfold byte? at read
  split at read
  · rename_i n
    obtain ⟨⟨least, most⟩, ⟨⟩⟩ := Option.ite_none_right_eq_some.mp read
    rw [UInt8.toNat_ofNat_of_lt' (by simp; omega), Int.toNat_of_nonneg least]
    rfl
  · cases read

theorem eq_ofNumbers_of_mapM {items : List Json} {bytes : List UInt8}
    (read : items.mapM byte? = some bytes) : array items = ofNumbers bytes := by
  refine congrArg array ?_
  induction items generalizing bytes with
  | nil =>
    cases read
    rfl
  | cons item rest ih =>
    simp only [List.mapM_cons, Option.bind_eq_bind, Option.bind_eq_some_iff] at read
    obtain ⟨b, one, others, many, ⟨⟩⟩ := read
    rw [List.map_cons, ← ih many, ← eq_ofInt_of_byte? one]

/-- A tree that bytes are not stored as stands for the bytes of a text. -/
theorem exists_text_of_not_isStored {tree : Json} (other : ¬tree.IsStored) :
    ∃ text, ofBytes tree.toBytes = string text := by
  cases tree with
  | null => exact ⟨"", ofBytes_toUTF8 ""⟩
  | string text => exact absurd (.inl ⟨text, rfl⟩) other
  | array items =>
    cases read : items.mapM byte? with
    | none => exact ⟨_, by rw [toBytes, read]; exact ofBytes_toUTF8 _⟩
    | some bytes =>
      rw [eq_ofNumbers_of_mapM read] at other ⊢
      rw [toBytes_ofNumbers, exists_ofBytes_eq_string_iff]
      by_contra noText
      exact other (.inr ⟨bytes, noText, rfl⟩)
  | bool | number | object => exact ⟨_, ofBytes_toUTF8 _⟩

/-- Bytes are stored as a string if they are a text and otherwise as their numbers, and either gives them back. The
other way round, the trees that are stored so are the only ones that their bytes give back; of every other tree
they make a string. -/
theorem bytes_survive_storage :
    (∀ bytes : ByteArray,
      ((∃ text, ofBytes bytes = string text) ↔ Text.IsUtf8 bytes.data.toList) ∧
      (¬Text.IsUtf8 bytes.data.toList → ofBytes bytes = ofNumbers bytes.data.toList) ∧
      (ofBytes bytes).toBytes = bytes) ∧
    ∀ tree : Json,
      (ofBytes tree.toBytes = tree ↔ tree.IsStored) ∧
      (¬tree.IsStored → ∃ text, ofBytes tree.toBytes = string text) := by
  refine ⟨fun bytes => ⟨exists_ofBytes_eq_string_iff, ofBytes_of_not_isUtf8, toBytes_ofBytes bytes⟩, ?_⟩
  refine fun tree => ⟨⟨fun same => ?_, ofBytes_toBytes_of_isStored⟩, exists_text_of_not_isStored⟩
  rw [← same]
  exact isStored_ofBytes tree.toBytes

/-- Two bytes of a group of three are stored as numbers; the array of the one byte of `A` comes back as a string. -/
theorem bytes_survive_storage_truncated :
    ¬Text.IsUtf8 [0xE2, 0x82] ∧ ofBytes ⟨#[0xE2, 0x82]⟩ = ofNumbers [0xE2, 0x82] ∧
      ¬(ofNumbers [65]).IsStored ∧ ∃ text, ofBytes (ofNumbers [65]).toBytes = string text := by
  have noText : ¬Text.IsUtf8 [0xE2, 0x82] := by
    have invalid : ¬(⟨#[0xE2, 0x82]⟩ : ByteArray).IsValidUTF8 := by decide
    exact Text.isValidUTF8_iff.not.mp invalid
  have other : ¬(ofNumbers [65]).IsStored := by
    rintro (⟨text, ⟨⟩⟩ | ⟨bytes, refused, same⟩)
    have held := congrArg toBytes same
    rw [toBytes_ofNumbers, toBytes_ofNumbers] at held
    have one : bytes = [65] := by simpa using held.symm
    exact refused ⟨[[65]], by simpa [one] using .one (by decide), one⟩
  exact ⟨noText, (bytes_survive_storage.1 ⟨#[0xE2, 0x82]⟩).2.1 noText, other,
    (bytes_survive_storage.2 _).2 other⟩

end RecordFlow.Json
