/-! Whole numbers from decimal digits, inside the range of a 64-bit word. -/

namespace RecordFlow.Text

def digitValue (c : Char) : Nat := c.toNat - '0'.toNat

def digitsValue (digits : List Char) : Nat :=
  digits.foldl (fun value c => value * 10 + digitValue c) 0

def natural? (text : List Char) : Option Nat :=
  if text ≠ [] ∧ text.all Char.isDigit then some (digitsValue text) else none

def integer? : List Char → Option Int
  | '+' :: digits => (natural? digits).map Int.ofNat
  | '-' :: digits => (natural? digits).map fun n => -Int.ofNat n
  | digits => (natural? digits).map Int.ofNat

def wordSize : Nat := 0x10000000000000000

def halfWord : Nat := 0x8000000000000000

def minInt64 : Int := -halfWord

def maxInt64 : Int := halfWord - 1

def fitsInt64 (n : Int) : Bool := decide (minInt64 ≤ n ∧ n ≤ maxInt64)

def fitsWord64 (n : Int) : Bool := decide (0 ≤ n ∧ n < wordSize)

def int64? (text : List Char) : Option Int := (integer? text).filter fitsInt64

/-- Reads an unsigned 64-bit number; a minus sign is refused even before zero. -/
def word64? (text : List Char) : Option Nat :=
  match text with
  | '+' :: digits => (natural? digits).filter (· < wordSize)
  | digits => (natural? digits).filter (· < wordSize)

end RecordFlow.Text
