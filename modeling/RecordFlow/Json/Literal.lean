import RecordFlow.Binary64.Reading
import RecordFlow.Json.Basic

/-!
The JSON grammar of numbers. A literal without point and exponent is whole if it fits in a 64-bit word; minus
zero and all others are doubles, read from the digits that fit in 64 bits.
-/

namespace RecordFlow.Json

open Text Binary64

structure Literal where
  negative : Bool
  whole : List Char
  fraction : Option (List Char)
  exponent : Option Int
  deriving Repr

namespace Literal

def tail? (rest : List Char) : Option (Option (List Char) × Option Int) :=
  let exponent? : List Char → Option (Option Int)
    | [] => some none
    | rest => (exponentPart? rest).map some
  match rest with
  | '.' :: rest =>
    let (digits, rest) := digitSpan rest
    if digits = [] then none else (exponent? rest).map fun e => (some digits, e)
  | rest => (exponent? rest).map fun e => (none, e)

/-- Reads a literal; a zero is followed by no further whole digit. -/
def ofText? (text : List Char) : Option Literal :=
  let (negative, body) :=
    match text with
    | '-' :: rest => (true, rest)
    | rest => (false, rest)
  let (whole, rest) := digitSpan body
  if whole = [] ∨ (whole.head? = some '0' ∧ whole.length ≠ 1) then none
  else (tail? rest).map fun (fraction, exponent) => ⟨negative, whole, fraction, exponent⟩

/-- Appends digits to a significand as long as it stays below `2 ^ 64`; gives the digits left over. -/
def absorb (significand : Nat) : List Char → Nat × List Char
  | [] => (significand, [])
  | d :: rest =>
    let next := significand * 10 + digitValue d
    if next < wordSize then absorb next rest else (significand, d :: rest)

/-- The number a literal denotes, or nothing if it is beyond the range of the doubles. -/
def number? (literal : Literal) : Option Number :=
  let signed (x : Binary64) : Number := .float (if literal.negative then x.neg else x)
  let (significand, left) := absorb 0 literal.whole
  match literal.fraction, literal.exponent, left with
  | none, none, [] =>
    if !literal.negative then some (.integer significand)
    else if significand ≠ 0 ∧ significand ≤ halfWord then some (.integer (-(significand : Int)))
    else some (signed (ofRatio false significand 1))
  | fraction, exponent, left =>
    let digits := fraction.getD []
    let (significand, unused) := absorb significand digits
    let places : Int := (digits.length : Int) - unused.length
    (ofParts? significand (left.length - places + exponent.getD 0)).map signed

end Literal

end RecordFlow.Json
