import RecordFlow.Binary64.Rounding
import RecordFlow.Node
import RecordFlow.Text.Numeral
import RecordFlow.Toml.Strings

/-!
A scalar without quotes is one word, except that a space may stand between a date and a time. A date is kept as an
object with one member, its text. A number without a value is refused only where it is seen.
-/

namespace RecordFlow.Toml

open Text

/-- The digits of a group, without the single underscores that may stand between two digits. -/
def ungrouped? (isDigit : Char → Bool) : List Char → Option (List Char)
  | [] => none
  | [c] => if isDigit c then some [c] else none
  | c :: '_' :: rest => if isDigit c then (ungrouped? isDigit rest).map (c :: ·) else none
  | c :: d :: rest => if isDigit c then (ungrouped? isDigit (d :: rest)).map (c :: ·) else none

def splitSign : List Char → Bool × List Char
  | '-' :: rest => (true, rest)
  | '+' :: rest => (false, rest)
  | rest => (false, rest)

/-- Decimal digits that make a whole number: no zero stands before others. -/
def wholeDigits? (text : List Char) : Option (List Char) :=
  (ungrouped? Char.isDigit text).filter fun digits => digits.length = 1 || digits.head? != some '0'

def inBase? (base : Nat) (text : List Char) : Option Nat := do
  let isDigit (c : Char) : Bool := (Json.hexDigit? c).any (· < base)
  let digits ← ungrouped? isDigit text
  return digits.foldl (fun n c => n * base + (Json.hexDigit? c).getD 0) 0

def fitsWord128 (n : Int) : Bool :=
  -0x80000000000000000000000000000000 ≤ n ∧ n < 0x100000000000000000000000000000000

/-- The node of a whole number. One that only a 128-bit word can hold may be stepped over; a greater
one has no value. -/
def integerNode (n : Int) : Node :=
  if fitsInt64 n ∨ fitsWord64 n then .number (.integer n)
  else if fitsWord128 n then .invalid
  else .refused

def inBaseNode? (base : Nat) (digits : List Char) : Option Node :=
  if digits = [] then some .refused
  else (inBase? base digits).map fun n => integerNode (n : Int)

def whole? (word : List Char) : Option Node :=
  match word with
  | '0' :: 'x' :: digits => inBaseNode? 16 digits
  | '0' :: 'o' :: digits => inBaseNode? 8 digits
  | '0' :: 'b' :: digits => inBaseNode? 2 digits
  | word =>
    let (negative, body) := splitSign word
    (wholeDigits? body).map fun digits =>
      integerNode (if negative then -(digitsValue digits : Int) else digitsValue digits)

def exponent? : List Char → Option Int
  | [] => some 0
  | c :: rest =>
    let (negative, body) := splitSign rest
    if c = 'e' ∨ c = 'E' then
      (ungrouped? Char.isDigit body).map fun digits =>
        if negative then -(digitsValue digits : Int) else digitsValue digits
    else none

def isExponentMark (c : Char) : Bool := c == 'e' || c == 'E'

def doubleNode (x : Binary64) : Node := if x.isFinite then .number (.float x) else .refused

def decimal? (word : List Char) : Option Node := do
  let (negative, body) := splitSign word
  let mantissa := body.takeWhile fun c => !isExponentMark c
  let exponent := body.dropWhile fun c => !isExponentMark c
  let whole ← wholeDigits? (mantissa.takeWhile (· != '.'))
  let fraction ←
    match mantissa.dropWhile (· != '.') with
    | '.' :: digits => ungrouped? Char.isDigit digits
    | _ => if exponent = [] then none else some []
  let power ← exponent? exponent
  return doubleNode
    (Binary64.ofDecimal negative (digitsValue (whole ++ fraction)) (power - fraction.length))

def special? (word : List Char) : Option Node :=
  let (negative, body) := splitSign word
  if body = "inf".toList then some (.number (.float (.infinity negative)))
  else if body = "nan".toList then some (.number (.float .nan))
  else none

def daysIn (year month : Nat) : Nat :=
  if month = 2 then
    if year % 4 = 0 ∧ (year % 100 ≠ 0 ∨ year % 400 = 0) then 29 else 28
  else if month ∈ [4, 6, 9, 11] then 30
  else 31

def date? : List Char → Option (List Char × List Char)
  | a :: b :: c :: d :: '-' :: e :: f :: '-' :: g :: h :: rest => do
    let year ← natural? [a, b, c, d]
    let month ← natural? [e, f]
    let day ← natural? [g, h]
    if 1 ≤ month ∧ month ≤ 12 ∧ 1 ≤ day ∧ day ≤ daysIn year month then
      return ([a, b, c, d, '-', e, f, '-', g, h], rest)
    else none
  | _ => none

/-- The text of a fraction of a second: nine places, then without zeros at the end, and without the
point if nothing is left. -/
def fractionText (digits : List Char) : List Char :=
  let kept := ((digits.take 9).reverse.dropWhile (· == '0')).reverse
  if kept = [] then [] else '.' :: kept

/-- Reads the seconds after an hour and a minute, and gives their text; they may be left out. -/
def seconds? : List Char → Option (List Char × List Char)
  | ':' :: a :: b :: rest => do
    let second ← natural? [a, b]
    if 60 < second then none
    else
      match rest with
      | '.' :: rest =>
        let digits := rest.takeWhile Char.isDigit
        if digits = [] then none
        else return (a :: b :: fractionText digits, rest.dropWhile Char.isDigit)
      | rest => return ([a, b], rest)
  | rest => some (['0', '0'], rest)

def time? : List Char → Option (List Char × List Char)
  | a :: b :: ':' :: c :: d :: rest => do
    let hour ← natural? [a, b]
    let minute ← natural? [c, d]
    if 23 < hour ∨ 59 < minute then none
    else
      let (seconds, rest) ← seconds? rest
      return ([a, b, ':', c, d, ':'] ++ seconds, rest)
  | _ => none

def offset? : List Char → Option (List Char)
  | [] => some []
  | ['Z'] => some ['Z']
  | ['z'] => some ['Z']
  | [sign, a, b, ':', c, d] => do
    let hour ← natural? [a, b]
    let minute ← natural? [c, d]
    if (sign = '+' ∨ sign = '-') ∧ hour ≤ 23 ∧ minute ≤ 59 then
      return (if hour = 0 ∧ minute = 0 then '+' else sign) :: [a, b, ':', c, d]
    else none
  | _ => none

def dateTime? (word : List Char) : Option (List Char) :=
  match date? word with
  | some (date, []) => some date
  | some (date, c :: rest) =>
    if c = 'T' ∨ c = 't' ∨ c = ' ' then do
      let (time, rest) ← time? rest
      let offset ← offset? rest
      return date ++ 'T' :: (time ++ offset)
    else none
  | none =>
    match time? word with
    | some (time, []) => some time
    | _ => none

def dateKey : String := "$__toml_private_datetime"

def scalarNode? (word : List Char) : Option Node :=
  if word = "true".toList then some (.bool true)
  else if word = "false".toList then some (.bool false)
  else
    ((whole? word).or ((decimal? word).or (special? word))).or
      ((dateTime? word).map fun text => .object [(dateKey, .string (String.ofList text))])

def isScalarChar (c : Char) : Bool :=
  c.isAlphanum || c == '_' || c == '+' || c == '-' || c == '.' || c == ':'

def isDate (word : List Char) : Bool := (date? word).any fun (_, rest) => rest.isEmpty

def scalar? (text : List Char) : Option (Node × List Char) :=
  let word := text.takeWhile isScalarChar
  let rest := text.dropWhile isScalarChar
  match rest with
  | ' ' :: c :: after =>
    if isDate word && c.isDigit then
      (scalarNode? (word ++ ' ' :: (c :: after).takeWhile isScalarChar)).map fun node =>
        (node, (c :: after).dropWhile isScalarChar)
    else (scalarNode? word).map fun node => (node, rest)
  | rest => (scalarNode? word).map fun node => (node, rest)

end RecordFlow.Toml
