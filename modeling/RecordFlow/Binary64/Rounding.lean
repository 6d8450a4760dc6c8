import RecordFlow.Binary64.Basic

/-! `ofRatio` gives the double nearest to a quotient, of two equally near the even one; all arithmetic uses it. -/

namespace RecordFlow.Binary64

/-- The whole number nearest to a quotient, of two equally near the even one. -/
def roundToEven (numerator denominator : Nat) : Nat :=
  let floor := numerator / denominator
  let twice := 2 * (numerator % denominator)
  if twice < denominator then floor
  else if denominator < twice then floor + 1
  else floor + floor % 2

def scaled (numerator denominator : Nat) (q : Int) : Nat × Nat :=
  (numerator * Nat.pow 2 (-q).toNat, denominator * Nat.pow 2 q.toNat)

/-- The exponent at which a quotient has a significand of 53 bits, or the least exponent there is. -/
def fittingExponent (numerator denominator : Nat) : Int :=
  let q : Int := max ((numerator.log2 : Int) - denominator.log2 - 53) (-1074)
  let (n, d) := scaled numerator denominator q
  if 2 * hiddenBit ≤ n / d then q + 1 else q

/-- The double nearest to a quotient. -/
def ofRatio (negative : Bool) (numerator denominator : Nat) : Binary64 :=
  if numerator = 0 then zero negative
  else
    let q := fittingExponent numerator denominator
    let (n, d) := scaled numerator denominator q
    let magnitude := (q + 1074).toNat * hiddenBit + roundToEven n d
    if infinityBits ≤ magnitude then infinity negative else ofMagnitude negative magnitude

def ofInt (n : Int) : Binary64 := ofRatio (decide (n < 0)) n.natAbs 1

/-- The double nearest to `digits * 10 ^ exponent`. Powers of ten that lie far outside the range of
the doubles are not computed. -/
def ofDecimal (negative : Bool) (digits : Nat) (exponent : Int) : Binary64 :=
  let magnitude := exponent + (Nat.toDigits 10 digits).length
  if digits = 0 ∨ magnitude < -330 then zero negative
  else if 310 < magnitude then infinity negative
  else ofRatio negative (digits * Nat.pow 10 exponent.toNat) (Nat.pow 10 (-exponent).toNat)

def mul (x y : Binary64) : Binary64 :=
  ofRatio (x.negative != y.negative) (x.ratio.1 * y.ratio.1) (x.ratio.2 * y.ratio.2)

def div (x y : Binary64) : Binary64 :=
  ofRatio (x.negative != y.negative) (x.ratio.1 * y.ratio.2) (x.ratio.2 * y.ratio.1)

def powerOfTen (n : Nat) : Binary64 := ofRatio false (Nat.pow 10 n) 1

end RecordFlow.Binary64
