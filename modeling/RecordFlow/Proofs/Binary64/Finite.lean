import Mathlib.Tactic.Ring
import RecordFlow.Binary64.Reading

/-!
# Finite doubles

Rounding never takes a quotient beyond a power of two that it is not beyond: the double nearest to a quotient of
at most `2 ^ 64` is at most `2 ^ 64`, and so far from overflow (`isModest_ofRatio`). So whole numbers of at most
64 bits become finite doubles, and stay finite when they are scaled down (`isModest_scaleDown`).
-/

namespace RecordFlow.Binary64

variable {bits numerator denominator significand bound : Nat} {q : Int} {x y : Binary64}

/-! ### Bits below the sign -/

/-- The number without its sign, as bits. -/
def magnitude (x : Binary64) : Nat := x.bits.toNat % 0x8000000000000000

/-- Apart from the sign the number is at most `2 ^ 64`, whose exponent field is 1087. -/
def IsModest (x : Binary64) : Prop := x.magnitude ≤ 1087 * hiddenBit

theorem exponentField_eq (x : Binary64) : x.exponentField = x.magnitude / hiddenBit := by
  unfold exponentField magnitude hiddenBit
  omega

theorem fraction_eq (x : Binary64) : x.fraction = x.magnitude % hiddenBit := by
  unfold fraction magnitude hiddenBit
  omega

theorem isFinite_iff : x.isFinite = true ↔ x.magnitude < infinityBits := by
  have word := Nat.mod_lt x.bits.toNat (Nat.two_pow_pos 63)
  rw [isFinite, exponentField_eq, bne_iff_ne]
  unfold magnitude infinityBits hiddenBit
  omega

theorem isFinite_of_isModest (modest : x.IsModest) : x.isFinite := by
  rw [isFinite_iff]
  unfold IsModest hiddenBit at modest
  unfold infinityBits
  omega

theorem magnitude_ofMagnitude (negative : Bool) (fits : bits < 0x8000000000000000) :
    (ofMagnitude negative bits).magnitude = bits := by
  rw [magnitude, ofMagnitude, UInt64.toNat_ofNat']
  split <;> omega

theorem isFinite_neg (x : Binary64) : x.neg.isFinite = x.isFinite := by
  have field : x.neg.exponentField = x.exponentField := by
    rw [exponentField, neg, UInt64.toNat_xor, show hiddenBit = 2 ^ 52 from rfl, Nat.xor_div_two_pow,
      show 2048 = 2 ^ 11 from rfl, Nat.xor_mod_two_pow]
    exact Nat.xor_zero _
  rw [isFinite, isFinite, field]

/-! ### Rounding -/

theorem roundToEven_le (fits : numerator ≤ bound * denominator) :
    roundToEven numerator denominator ≤ bound := by
  have parts := Nat.div_add_mod numerator denominator
  obtain below | above := Nat.lt_or_ge (numerator / denominator) bound
  · unfold roundToEven
    dsimp only
    split
    · omega
    · split <;> omega
  · -- nothing is left to round: the quotient is the bound
    obtain rfl | positive := Nat.eq_zero_or_pos denominator
    · have nothing : numerator = 0 := by omega
      rw [nothing]
      exact Nat.zero_le bound
    · have whole := Nat.mul_le_mul_left denominator above
      have same : numerator = denominator * bound := by
        rw [Nat.mul_comm bound] at fits
        omega
      rw [same, roundToEven, Nat.mul_div_cancel_left bound positive, Nat.mul_mod_right, if_pos positive]

/-- Scaled at an exponent that leaves at most 54 bits, a quotient is below `2 ^ 54`. -/
theorem scaled_lt (positive : denominator ≠ 0)
    (fits : (numerator.log2 : Int) - denominator.log2 - 53 ≤ q) :
    (scaled numerator denominator q).1 < 2 * (2 * hiddenBit) * (scaled numerator denominator q).2 := by
  have above : numerator < 2 ^ (numerator.log2 + 1) := Nat.lt_log2_self
  have below : 2 ^ denominator.log2 ≤ denominator := Nat.log2_self_le positive
  have exponents : numerator.log2 + 1 + (-q).toNat ≤ 54 + (denominator.log2 + q.toNat) := by omega
  calc numerator * 2 ^ (-q).toNat
      < 2 ^ (numerator.log2 + 1) * 2 ^ (-q).toNat :=
        Nat.mul_lt_mul_of_pos_right above (Nat.two_pow_pos _)
    _ = 2 ^ (numerator.log2 + 1 + (-q).toNat) := (Nat.pow_add ..).symm
    _ ≤ 2 ^ (54 + (denominator.log2 + q.toNat)) := Nat.pow_le_pow_right Nat.two_pos exponents
    _ = 2 * (2 * hiddenBit) * (2 ^ denominator.log2 * 2 ^ q.toNat) := by
        rw [Nat.pow_add, Nat.pow_add, hiddenBit]
    _ ≤ 2 * (2 * hiddenBit) * (denominator * 2 ^ q.toNat) :=
        Nat.mul_le_mul_left _ (Nat.mul_le_mul_right _ below)

/-- One exponent higher a quotient is half as large. -/
theorem scaled_succ_lt
    (below : (scaled numerator denominator q).1 < 2 * bound * (scaled numerator denominator q).2) :
    (scaled numerator denominator (q + 1)).1 < bound * (scaled numerator denominator (q + 1)).2 := by
  unfold scaled at below ⊢
  dsimp only [Nat.pow_eq] at below ⊢
  -- below zero the numerator loses a factor of two, from zero on the denominator gains one
  obtain below_zero | above_zero := Int.lt_or_le q 0
  · have step : (-q).toNat = (-(q + 1)).toNat + 1 := by omega
    have flat : q.toNat = 0 ∧ (q + 1).toNat = 0 := by omega
    rw [flat.1, step, Nat.pow_succ] at below
    rw [flat.2]
    have twice : 2 * (numerator * 2 ^ (-(q + 1)).toNat) < 2 * (bound * (denominator * 2 ^ 0)) := by
      calc _ = numerator * (2 ^ (-(q + 1)).toNat * 2) := by ring
        _ < 2 * bound * (denominator * 2 ^ 0) := below
        _ = _ := by ring
    exact Nat.lt_of_mul_lt_mul_left twice
  · have step : (q + 1).toNat = q.toNat + 1 := by omega
    have flat : (-q).toNat = 0 ∧ (-(q + 1)).toNat = 0 := by omega
    rw [flat.1] at below
    rw [flat.2, step, Nat.pow_succ]
    calc _ < 2 * bound * (denominator * 2 ^ q.toNat) := below
      _ = _ := by ring

theorem scaled_fittingExponent_lt (numerator : Nat) (positive : denominator ≠ 0) :
    (scaled numerator denominator (fittingExponent numerator denominator)).1 <
      2 * hiddenBit * (scaled numerator denominator (fittingExponent numerator denominator)).2 := by
  unfold fittingExponent
  dsimp only
  split
  · exact scaled_succ_lt (scaled_lt positive (by omega))
  · rename_i small
    exact (Nat.div_lt_iff_lt_mul (Nat.mul_pos (Nat.pos_of_ne_zero positive) (Nat.two_pow_pos _))).mp
      (Nat.lt_of_not_le small)

theorem fittingExponent_le (numerator denominator : Nat) :
    fittingExponent numerator denominator ≤ max ((numerator.log2 : Int) - denominator.log2 - 52) (-1073) := by
  unfold fittingExponent
  dsimp only
  split <;> omega

/-- The double nearest to a quotient of at most `2 ^ 64` is at most `2 ^ 64`. -/
theorem isModest_ofRatio (negative : Bool) (positive : denominator ≠ 0)
    (fits : numerator ≤ 2 ^ 64 * denominator) : (ofRatio negative numerator denominator).IsModest := by
  unfold ofRatio
  split
  · rw [IsModest, zero, magnitude_ofMagnitude negative (by decide)]
    exact Nat.zero_le _
  · rename_i some
    dsimp only
    have below := scaled_fittingExponent_lt numerator positive
    generalize exponent : fittingExponent numerator denominator = q at below ⊢
    have low : q ≤ 12 := by
      have above : denominator < 2 ^ (denominator.log2 + 1) := Nat.lt_log2_self
      have logarithm : numerator.log2 < denominator.log2 + 65 := by
        refine (Nat.log2_lt some).mpr ?_
        calc numerator ≤ 2 ^ 64 * denominator := fits
          _ < 2 ^ 64 * 2 ^ (denominator.log2 + 1) := Nat.mul_lt_mul_of_pos_left above (Nat.two_pow_pos 64)
          _ = 2 ^ (denominator.log2 + 65) := by rw [← Nat.pow_add, Nat.add_comm 64]
      have least := fittingExponent_le numerator denominator
      omega
    -- the quotient has at most 53 bits, and at the highest exponent it is at most `2 ^ 52`
    have bounded : (q + 1074).toNat * hiddenBit +
        roundToEven (scaled numerator denominator q).1 (scaled numerator denominator q).2 ≤
          1087 * hiddenBit := by
      obtain small | top := Int.lt_or_eq_of_le low
      · have rounded := roundToEven_le (Nat.le_of_lt below)
        have exponents : (q + 1074).toNat ≤ 1085 := by omega
        have product := Nat.mul_le_mul_right hiddenBit exponents
        omega
      · subst top
        have rounded : roundToEven (scaled numerator denominator 12).1 (scaled numerator denominator 12).2 ≤
            hiddenBit := by
          refine roundToEven_le ?_
          change numerator * 2 ^ 0 ≤ 2 ^ 52 * (denominator * 2 ^ 12)
          omega
        have exponents : ((12 : Int) + 1074).toNat = 1086 := rfl
        rw [exponents]
        omega
    have noOverflow : ¬infinityBits ≤ (q + 1074).toNat * hiddenBit +
        roundToEven (scaled numerator denominator q).1 (scaled numerator denominator q).2 := by
      unfold infinityBits hiddenBit at *
      omega
    rw [if_neg noOverflow, IsModest, magnitude_ofMagnitude]
    · exact bounded
    · unfold infinityBits at noOverflow
      omega

/-! ### Scaling -/

theorem ratio_pos (x : Binary64) : 0 < x.ratio.2 := Nat.two_pow_pos _

theorem ratio_le_of_isModest (modest : x.IsModest) : x.ratio.1 ≤ 2 ^ 64 * x.ratio.2 := by
  have fraction := Nat.mod_lt x.magnitude (show 0 < hiddenBit by decide)
  have bounded : x.significand * 2 ^ x.exponent.toNat ≤ 2 ^ 64 := by
    obtain small | top := Nat.lt_or_ge x.exponentField 1087
    · have significand : x.significand ≤ 2 ^ 53 := by
        unfold Binary64.significand
        rw [fraction_eq]
        unfold hiddenBit at *
        split <;> omega
      have exponent : x.exponent.toNat ≤ 11 := by
        unfold Binary64.exponent
        omega
      calc x.significand * 2 ^ x.exponent.toNat
          ≤ 2 ^ 53 * 2 ^ 11 := Nat.mul_le_mul significand (Nat.pow_le_pow_right Nat.two_pos exponent)
        _ = 2 ^ 64 := rfl
    · have same : x.magnitude = 1087 * hiddenBit := by
        rw [exponentField_eq] at top
        unfold IsModest hiddenBit at *
        omega
      have field : x.exponentField = 1087 := by rw [exponentField_eq, same]; rfl
      have significand : x.significand = 2 ^ 52 := by
        rw [Binary64.significand, field, fraction_eq, same]
        rfl
      have exponent : x.exponent.toNat = 12 := by rw [Binary64.exponent, field]; rfl
      rw [significand, exponent]
      decide
  exact Nat.le_trans bounded (Nat.le_mul_of_pos_right _ x.ratio_pos)

theorem isModest_div (modest : x.IsModest) (large : y.ratio.2 ≤ y.ratio.1) : (x.div y).IsModest := by
  have positive : 0 < y.ratio.1 := Nat.lt_of_lt_of_le y.ratio_pos large
  refine isModest_ofRatio _ (Nat.mul_pos x.ratio_pos positive).ne' ?_
  calc x.ratio.1 * y.ratio.2
      ≤ 2 ^ 64 * x.ratio.2 * y.ratio.1 := Nat.mul_le_mul (ratio_le_of_isModest modest) large
    _ = 2 ^ 64 * (x.ratio.2 * y.ratio.1) := Nat.mul_assoc ..

theorem powerOfTen_large : ∀ k ≤ 308, (powerOfTen k).ratio.2 ≤ (powerOfTen k).ratio.1 := by
  decide +kernel

theorem isModest_scaleDown (modest : x.IsModest) (k : Nat) : (x.scaleDown k).IsModest := by
  fun_induction scaleDown x k with
  | case1 x k small => exact isModest_div modest (powerOfTen_large k small)
  | case2 x k _ _ => exact modest
  | case3 x k _ _ ih => exact ih (isModest_div modest (powerOfTen_large 308 (Nat.le_refl 308)))

theorem isModest_ofWord (negative : Bool) (small : significand < 2 ^ 64) :
    (ofRatio negative significand 1).IsModest :=
  isModest_ofRatio negative Nat.one_ne_zero (by omega)

/-- Whole numbers of at most 64 bits are far below the largest double. -/
theorem isFinite_ofInt {n : Int} (small : n.natAbs < 2 ^ 64) : (ofInt n).isFinite :=
  isFinite_of_isModest (isModest_ofWord _ small)

theorem isFinite_of_ofParts? {exponent : Int} (small : significand < 2 ^ 64)
    (read : ofParts? significand exponent = some x) : x.isFinite := by
  have modest := isModest_ofWord false small
  unfold ofParts? at read
  dsimp only at read
  split at read
  · cases read
    exact isFinite_of_isModest (isModest_scaleDown modest _)
  split at read
  · cases read
    exact isFinite_of_isModest modest
  split at read
  · cases read
  · obtain ⟨-, finite⟩ := Option.filter_eq_some_iff.mp read
    exact finite

end RecordFlow.Binary64
