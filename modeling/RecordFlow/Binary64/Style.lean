import RecordFlow.Binary64.Shortest

/-! How the shortest digits of a double are laid out as text. -/

namespace RecordFlow.Binary64

structure Style where
  /-- Whether a number whose leading digit stands at this power of ten is written without exponent. -/
  positional : Int → Bool
  pointZero : Bool
  tie : Tie
  nan : String
  infinity : String

def positionalText (pointZero : Bool) (digits : List Char) (exponent : Int) : List Char :=
  if 0 ≤ exponent then
    digits ++ List.replicate exponent.toNat '0' ++ if pointZero then ['.', '0'] else []
  else
    let places := (-exponent).toNat
    let padded := List.replicate (places + 1 - digits.length) '0' ++ digits
    padded.take (padded.length - places) ++ '.' :: padded.drop (padded.length - places)

def exponentText (digits : List Char) (leading : Int) : List Char :=
  let sign := if leading < 0 then '-' else '+'
  let power := Nat.toDigits 10 leading.natAbs
  match digits with
  | [] => []
  | [d] => d :: 'e' :: sign :: power
  | d :: more => d :: '.' :: (more ++ 'e' :: sign :: power)

def Style.text (style : Style) (x : Binary64) : String :=
  if x.isNaN then style.nan
  else
    let sign := if x.negative then "-" else ""
    if !x.isFinite then sign ++ style.infinity
    else if x.isZero then sign ++ if style.pointZero then "0.0" else "0"
    else
      let decimal := x.shortest style.tie
      let digits := Nat.toDigits 10 decimal.digits
      let leading := decimal.exponent + digits.length - 1
      sign ++ String.ofList
        (if style.positional leading then positionalText style.pointZero digits decimal.exponent
        else exponentText digits leading)

end RecordFlow.Binary64
