import RecordFlow.Gzip.Inflate

/-!
A gzip member: a header, a deflate stream, and a trailer with the checksum and the length of the data. Only the
first member of a file is read.
-/

namespace RecordFlow.Gzip

def crcBits : (n : Nat) → UInt32 → UInt32
  | 0, crc => crc
  | n + 1, crc => crcBits n (if crc % 2 = 1 then (crc >>> 1) ^^^ 0xEDB88320 else crc >>> 1)

def crcByte (crc : UInt32) (byte : UInt8) : UInt32 := crcBits 8 (crc ^^^ byte.toUInt32)

def crc32 (bytes : ByteArray) : UInt32 := bytes.foldl crcByte 0xFFFFFFFF ^^^ 0xFFFFFFFF

def magic : List UInt8 := [0x1f, 0x8b]

def maxText : Nat := 65535

def littleEndian : List UInt8 → Nat
  | [] => 0
  | byte :: rest => byte.toNat + 256 * littleEndian rest

def afterText? (bytes : List UInt8) : Option (List UInt8) :=
  let text := bytes.takeWhile (· != 0)
  if maxText < text.length then none
  else
    match bytes.drop text.length with
    | _ :: rest => some rest
    | [] => none

def afterExtra? : List UInt8 → Option (List UInt8)
  | low :: high :: rest =>
    let length := littleEndian [low, high]
    if rest.length < length then none else some (rest.drop length)
  | _ => none

/-- What follows the checksum of a header, which must be that of the bytes before it. -/
def afterHeaderSum? (all : List UInt8) : List UInt8 → Option (List UInt8)
  | low :: high :: rest =>
    let before := all.take (all.length - (rest.length + 2))
    if (crc32 ⟨before.toArray⟩).toNat % 0x10000 = littleEndian [low, high] then some rest else none
  | _ => none

def afterHeader? (all : List UInt8) : Option (List UInt8) :=
  match all with
  | 0x1f :: 0x8b :: 8 :: flags :: _ :: _ :: _ :: _ :: _ :: _ :: rest => do
    let has (bit : Nat) : Bool := flags.toNat.testBit bit
    if 32 ≤ flags.toNat then none
    else
      let rest ← if has 2 then afterExtra? rest else some rest
      let rest ← if has 3 then afterText? rest else some rest
      let rest ← if has 4 then afterText? rest else some rest
      if has 1 then afterHeaderSum? all rest else some rest
  | _ => none

def decompress? (data : ByteArray) : Option ByteArray := do
  let rest ← afterHeader? data.toList
  let state ← inflate? ⟨data, 8 * (data.size - rest.length)⟩
  let (sum, cursor) ← state.cursor.aligned.number? 32
  let (size, _) ← cursor.number? 32
  if sum = (crc32 state.output).toNat ∧ size = state.output.size % 0x100000000 then some state.output
  else none

end RecordFlow.Gzip
