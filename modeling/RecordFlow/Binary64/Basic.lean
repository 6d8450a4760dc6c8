/-! IEEE 754 double-precision numbers as bit patterns. A finite one is `± significand * 2 ^ exponent`. -/

namespace RecordFlow

structure Binary64 where
  bits : UInt64
  deriving DecidableEq, Repr, Inhabited

namespace Binary64

def hiddenBit : Nat := 0x10000000000000

/-- The bits of infinity below the sign. -/
def infinityBits : Nat := 0x7FF0000000000000

def negative (x : Binary64) : Bool := x.bits.toNat.testBit 63

def exponentField (x : Binary64) : Nat := x.bits.toNat / hiddenBit % 2048

def fraction (x : Binary64) : Nat := x.bits.toNat % hiddenBit

def isFinite (x : Binary64) : Bool := x.exponentField != 2047

def isNaN (x : Binary64) : Bool := x.exponentField == 2047 && x.fraction != 0

def isZero (x : Binary64) : Bool := x.exponentField == 0 && x.fraction == 0

def significand (x : Binary64) : Nat :=
  if x.exponentField = 0 then x.fraction else hiddenBit + x.fraction

def exponent (x : Binary64) : Int := (max x.exponentField 1 : Nat) - 1075

def ratio (x : Binary64) : Nat × Nat :=
  (x.significand * Nat.pow 2 x.exponent.toNat, Nat.pow 2 (-x.exponent).toNat)

/-- The number whose bits below the sign are `magnitude`. -/
def ofMagnitude (negative : Bool) (magnitude : Nat) : Binary64 :=
  ⟨UInt64.ofNat (magnitude + if negative then 0x8000000000000000 else 0)⟩

def zero (negative : Bool) : Binary64 := ofMagnitude negative 0

def infinity (negative : Bool) : Binary64 := ofMagnitude negative infinityBits

def nan : Binary64 := ofMagnitude false 0x7FF8000000000000

def neg (x : Binary64) : Binary64 := ⟨x.bits ^^^ 0x8000000000000000⟩

/-- The whole part of a number, toward zero, held between two bounds; not a number counts as zero. -/
def clampTruncate (low high : Int) (x : Binary64) : Int :=
  if x.isNaN then 0
  else if !x.isFinite then if x.negative then low else high
  else
    let whole : Int := (x.ratio.1 / x.ratio.2 : Nat)
    max low (min high (if x.negative then -whole else whole))

end Binary64

end RecordFlow
