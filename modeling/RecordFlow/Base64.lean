/-!
Standard base64 with canonical padding: groups of four symbols, of which the last may hold padding. The bits
it leaves unused must be zero.
-/

namespace RecordFlow.Base64

/-- Why a text is not base64. Bytes and offsets are those of the text's UTF-8 form. -/
inductive Error where
  | invalidSymbol (byte : UInt8) (offset : Nat)
  | invalidLastSymbol (byte : UInt8) (offset : Nat)
  | invalidLength (length : Nat)
  | invalidPadding
  deriving DecidableEq, Repr

def Error.message : Error → String
  | .invalidSymbol byte offset =>
    "Invalid symbol " ++ toString byte.toNat ++ ", offset " ++ toString offset ++ "."
  | .invalidLastSymbol byte offset =>
    "Invalid last symbol " ++ toString byte.toNat ++ ", offset " ++ toString offset ++ "."
  | .invalidLength length => "Invalid input length: " ++ toString length
  | .invalidPadding => "Invalid padding"

def padding : UInt8 := 61

def value? (byte : UInt8) : Option Nat :=
  let n := byte.toNat
  if 65 ≤ n ∧ n ≤ 90 then some (n - 65)
  else if 97 ≤ n ∧ n ≤ 122 then some (n - 71)
  else if 48 ≤ n ∧ n ≤ 57 then some (n + 4)
  else if n = 43 then some 62
  else if n = 47 then some 63
  else none

def values (offset : Nat) : List UInt8 → Except Error (List Nat)
  | [] => .ok []
  | byte :: rest =>
    match value? byte with
    | none => .error (.invalidSymbol byte offset)
    | some n => (values (offset + 1) rest).map (n :: ·)

/-- The last group taken apart: the values of its symbols and the number of padding bytes. `padded`
is the offset of the first padding byte, once there is one. -/
def lastGroup (start offset : Nat) (padded : Option Nat) :
    List UInt8 → Except Error (List Nat × Nat)
  | [] => .ok ([], 0)
  | byte :: rest =>
    if byte = padding then
      if offset < start + 2 then .error (.invalidSymbol padding offset)
      else
        (lastGroup start (offset + 1) (padded.or (some offset)) rest).map fun (symbols, count) =>
          (symbols, count + 1)
    else
      match padded, value? byte with
      | some first, _ => .error (.invalidSymbol padding first)
      | none, none => .error (.invalidSymbol byte offset)
      | none, some n =>
        (lastGroup start (offset + 1) none rest).map fun (symbols, count) => (n :: symbols, count)

def number (symbols : List Nat) : Nat := symbols.foldl (fun n v => n * 64 + v) 0

def bytesOf (n : Nat) : (count : Nat) → List UInt8
  | 0 => []
  | count + 1 => UInt8.ofNat (n / Nat.pow 256 count) :: bytesOf n count

def groupBytes : List Nat → List UInt8
  | a :: b :: c :: d :: rest => bytesOf (number [a, b, c, d]) 3 ++ groupBytes rest
  | _ => []

def lastBytes (last : List UInt8) (stop : Nat) (symbols : List Nat) : Except Error (List UInt8) :=
  let unused := Nat.pow 2 (6 * symbols.length % 8)
  let n := number symbols
  if n % unused ≠ 0 then
    .error (.invalidLastSymbol (last[symbols.length - 1]?.getD 0) (stop - 1))
  else .ok (bytesOf (n / unused) (6 * symbols.length / 8))

/-- One symbol too many at the end, and not even a symbol. -/
def strayEnd? (text : List UInt8) : Option Error :=
  match text.getLast? with
  | some byte =>
    if text.length % 4 = 1 ∧ byte ≠ padding ∧ value? byte = none then
      some (.invalidSymbol byte (text.length - 1))
    else none
  | none => none

def decode (text : List UInt8) : Except Error (List UInt8) := do
  if let some error := strayEnd? text then throw error
  let start := (text.length - 1) / 4 * 4
  let whole ← values 0 (text.take start)
  let last := text.drop start
  let (symbols, padded) ← lastGroup start start none last
  if text ≠ [] ∧ symbols.length < 2 then throw (.invalidLength (start + symbols.length))
  if (symbols.length + padded) % 4 ≠ 0 then throw .invalidPadding
  return groupBytes whole ++ (← lastBytes last (start + symbols.length) symbols)

end RecordFlow.Base64
