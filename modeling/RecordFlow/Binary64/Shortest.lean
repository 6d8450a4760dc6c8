import RecordFlow.Binary64.Basic

/-!
The decimal with the fewest digits that rounds to a given double, and of those the nearest to it. If a grid of
decimals has a point in the rounding interval, then one of the two next to the number lies in it.
-/

namespace RecordFlow.Binary64

inductive Tie where
  | even
  | up
  deriving DecidableEq, Repr

structure Decimal where
  digits : Nat
  exponent : Int
  deriving DecidableEq, Repr

/-- The rounding interval of a finite number in quarters of its unit: lower end, number, upper end. -/
def interval (x : Binary64) : Nat × Nat × Nat :=
  let m := 4 * x.significand
  let narrow := x.fraction = 0 ∧ 1 < x.exponentField
  (if narrow then m - 1 else m - 2, m, m + 2)

def leadingExponent (numerator denominator : Nat) : Int :=
  if denominator ≤ numerator then ((Nat.toDigits 10 (numerator / denominator)).length : Int) - 1
  else -((Nat.toDigits 10 ((denominator + numerator - 1) / numerator - 1)).length : Int)

def onGrid? (tie : Tie) (x : Binary64) (k : Int) : Option Decimal :=
  let (low, middle, high) := x.interval
  let scale := Nat.pow 2 (x.exponent - 2).toNat * Nat.pow 10 (-k).toNat
  let unit := Nat.pow 2 (2 - x.exponent).toNat * Nat.pow 10 k.toNat
  let within (n : Nat) : Bool :=
    if x.significand % 2 = 0 then low * scale ≤ n * unit && n * unit ≤ high * scale
    else low * scale < n * unit && n * unit < high * scale
  let below := middle * scale / unit
  let twice := 2 * (middle * scale % unit)
  let downward : Bool :=
    match tie with
    | .even => twice < unit || (twice == unit && below % 2 == 0)
    | .up => twice < unit
  match within below && below != 0, within (below + 1) with
  | true, true => some ⟨if downward then below else below + 1, k⟩
  | true, false => some ⟨below, k⟩
  | false, true => some ⟨below + 1, k⟩
  | false, false => none

/-- Drops zeros at the end of the digits; `fuel` bounds how many. -/
def Decimal.withoutTrailingZeros (fuel : Nat) (d : Decimal) : Decimal :=
  match fuel with
  | 0 => d
  | fuel + 1 =>
    if d.digits ≠ 0 ∧ d.digits % 10 = 0 then
      Decimal.withoutTrailingZeros fuel ⟨d.digits / 10, d.exponent + 1⟩
    else d

/-- The shortest decimal of a finite number other than zero. Seventeen digits always suffice. -/
def shortest (tie : Tie) (x : Binary64) : Decimal :=
  let leading := leadingExponent x.ratio.1 x.ratio.2
  let found := (List.range 17).findSome? fun (i : Nat) => onGrid? tie x (leading - (i : Int))
  (found.getD ⟨0, 0⟩).withoutTrailingZeros 17

end RecordFlow.Binary64
