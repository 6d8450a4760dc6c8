import RecordFlow.Binary64.Rounding
import RecordFlow.Text.Numeral

/-!
Two readings of a decimal. `ofText?` rounds its exact value once; `ofParts?` rounds at every step: a 64-bit
significand, the power of ten, and their product or quotient.
-/

namespace RecordFlow.Binary64

open Text

def digitSpan (text : List Char) : List Char × List Char :=
  (text.takeWhile Char.isDigit, text.dropWhile Char.isDigit)

def exponentPart? : List Char → Option Int
  | [] => some 0
  | c :: rest => if c = 'e' ∨ c = 'E' then integer? rest else none

/-- Digits with an optional point among or beside them, then an optional exponent. -/
def unsigned? (negative : Bool) (text : List Char) : Option Binary64 :=
  let (whole, rest) := digitSpan text
  let (fraction, rest) :=
    match rest with
    | '.' :: rest => digitSpan rest
    | rest => ([], rest)
  if whole = [] ∧ fraction = [] then none
  else (exponentPart? rest).map fun exponent =>
    ofDecimal negative (digitsValue (whole ++ fraction)) (exponent - fraction.length)

def word? (negative : Bool) (text : List Char) : Option Binary64 :=
  let word := String.ofList (text.map Char.toLower)
  if word = "inf" ∨ word = "infinity" then some (infinity negative)
  else if word = "nan" then some nan
  else none

def ofText? (text : List Char) : Option Binary64 :=
  let (negative, body) :=
    match text with
    | '-' :: rest => (true, rest)
    | '+' :: rest => (false, rest)
    | rest => (false, rest)
  (unsigned? negative body).or (word? negative body)

/-- Divides by `10 ^ k` in steps of at most 308 powers, until nothing is left. -/
def scaleDown (x : Binary64) (k : Nat) : Binary64 :=
  if k ≤ 308 then x.div (powerOfTen k)
  else if x.isZero then x
  else scaleDown (x.div (powerOfTen 308)) (k - 308)
termination_by k

/-- A significand scaled by a power of ten, if the result is in range. -/
def ofParts? (significand : Nat) (exponent : Int) : Option Binary64 :=
  let x := ofRatio false significand 1
  if exponent < 0 then some (x.scaleDown (-exponent).toNat)
  else if x.isZero then some x
  else if 308 < exponent then none
  else some (x.mul (powerOfTen exponent.toNat)) |>.filter isFinite

end RecordFlow.Binary64
