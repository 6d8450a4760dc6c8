import RecordFlow.Gzip.Huffman

/-!
Decompression of a deflate stream. The output is taken to follow a row of zeros, so a copy may reach back
before its start. Every round of a loop reads a bit at least, so the number of bits bounds the rounds.
-/

namespace RecordFlow.Gzip

structure Inflating where
  output : ByteArray
  cursor : Cursor

/-- The least value and the number of extra bits of the copy lengths 257 to 285. -/
def lengthTable : Array (Nat × Nat) := #[
  (3, 0), (4, 0), (5, 0), (6, 0), (7, 0), (8, 0), (9, 0), (10, 0), (11, 1), (13, 1), (15, 1),
  (17, 1), (19, 2), (23, 2), (27, 2), (31, 2), (35, 3), (43, 3), (51, 3), (59, 3), (67, 4),
  (83, 4), (99, 4), (115, 4), (131, 5), (163, 5), (195, 5), (227, 5), (258, 0)]

/-- The least value and the number of extra bits of the copy distances 0 to 29. -/
def distanceTable : Array (Nat × Nat) := #[
  (1, 0), (2, 0), (3, 0), (4, 0), (5, 1), (7, 1), (9, 2), (13, 2), (17, 3), (25, 3), (33, 4),
  (49, 4), (65, 5), (97, 5), (129, 6), (193, 6), (257, 7), (385, 7), (513, 8), (769, 8), (1025, 9),
  (1537, 9), (2049, 10), (3073, 10), (4097, 11), (6145, 11), (8193, 12), (12289, 12), (16385, 13),
  (24577, 13)]

def extended? (table : Array (Nat × Nat)) (symbol : Nat) (cursor : Cursor) :
    Option (Nat × Cursor) := do
  let (base, bits) ← table[symbol]?
  let (extra, cursor) ← cursor.number? bits
  return (base + extra, cursor)

def byteBack (distance : Nat) (output : ByteArray) : UInt8 :=
  if distance ≤ output.size then output[output.size - distance]?.getD 0 else 0

def copyBack (distance : Nat) : (length : Nat) → ByteArray → ByteArray
  | 0, output => output
  | length + 1, output =>
    copyBack distance length (output.push (byteBack distance output))

def symbols? (literals distances : Code) : (rounds : Nat) → Inflating → Option Inflating
  | 0, _ => none
  | rounds + 1, ⟨output, cursor⟩ => do
    let (symbol, cursor) ← literals.symbol? cursor
    if symbol < 256 then
      symbols? literals distances rounds ⟨output.push (UInt8.ofNat symbol), cursor⟩
    else if symbol = 256 then return ⟨output, cursor⟩
    else
      let (length, cursor) ← extended? lengthTable (symbol - 257) cursor
      let (symbol, cursor) ← distances.symbol? cursor
      let (distance, cursor) ← extended? distanceTable symbol cursor
      symbols? literals distances rounds ⟨copyBack distance length output, cursor⟩

def storedBytes? : (count : Nat) → Inflating → Option Inflating
  | 0, state => some state
  | count + 1, ⟨output, cursor⟩ => do
    let (byte, cursor) ← cursor.number? 8
    storedBytes? count ⟨output.push (UInt8.ofNat byte), cursor⟩

/-- Reads a stored block: its length, the complement of the length, and the bytes. -/
def stored? (state : Inflating) : Option Inflating := do
  let (length, cursor) ← state.cursor.aligned.number? 16
  let (complement, cursor) ← cursor.number? 16
  if length + complement ≠ 0xFFFF then none
  else storedBytes? length ⟨state.output, cursor⟩

def fixedLengths : List Nat × List Nat :=
  (List.replicate 144 8 ++ List.replicate 112 9 ++ List.replicate 24 7 ++ List.replicate 8 8,
    List.replicate 32 5)

/-- The order in which the word lengths of the length code are transmitted. -/
def lengthOrder : List Nat :=
  [16, 17, 18, 0, 8, 7, 9, 6, 10, 5, 11, 4, 12, 3, 13, 2, 14, 1, 15]

def threeBits? : (count : Nat) → Cursor → Option (List Nat × Cursor)
  | 0, cursor => some ([], cursor)
  | count + 1, cursor => do
    let (n, cursor) ← cursor.number? 3
    let (rest, cursor) ← threeBits? count cursor
    return (n :: rest, cursor)

/-- Reads word lengths, given in reverse, until there are `count`; a run may not go past that. -/
def wordLengths? (code : Code) (count : Nat) :
    (rounds : Nat) → (found : List Nat) → Cursor → Option (List Nat × Cursor)
  | 0, _, _ => none
  | rounds + 1, found, cursor => do
    if found.length = count then return (found.reverse, cursor)
    else if count < found.length then none
    else
      let (symbol, cursor) ← code.symbol? cursor
      if symbol < 16 then wordLengths? code count rounds (symbol :: found) cursor
      else if symbol = 16 then
        let last ← found.head?
        let (extra, cursor) ← cursor.number? 2
        wordLengths? code count rounds (List.replicate (3 + extra) last ++ found) cursor
      else
        let (base, bits) := if symbol = 17 then (3, 3) else (11, 7)
        let (extra, cursor) ← cursor.number? bits
        wordLengths? code count rounds (List.replicate (base + extra) 0 ++ found) cursor

def transmittedLengths? (cursor : Cursor) : Option ((List Nat × List Nat) × Cursor) := do
  let (literals, cursor) ← cursor.number? 5
  let (distances, cursor) ← cursor.number? 5
  let (lengths, cursor) ← cursor.number? 4
  let literals := literals + 257
  let distances := distances + 1
  if 286 < literals ∨ 30 < distances then none
  else
    let (given, cursor) ← threeBits? (lengths + 4) cursor
    let byOrder := lengthOrder.zip given
    let code ← Code.ofLengths? ((List.range 19).map fun i => (byOrder.lookup i).getD 0)
    let (all, cursor) ← wordLengths? code (literals + distances) (literals + distances + 1) [] cursor
    return ((all.take literals, all.drop literals), cursor)

def compressed? (lengths : List Nat × List Nat) (state : Inflating) : Option Inflating := do
  let literals ← Code.ofLengths? lengths.1
  let distances ← Code.ofLengths? lengths.2
  symbols? literals distances state.cursor.left state

def block? (type : Nat) (state : Inflating) : Option Inflating :=
  match type with
  | 0 => stored? state
  | 1 => compressed? fixedLengths state
  | 2 => do
    let (lengths, cursor) ← transmittedLengths? state.cursor
    compressed? lengths ⟨state.output, cursor⟩
  | _ => none

def blocks? : (rounds : Nat) → Inflating → Option Inflating
  | 0, _ => none
  | rounds + 1, ⟨output, cursor⟩ => do
    let (final, cursor) ← cursor.next?
    let (type, cursor) ← cursor.number? 2
    let state ← block? type ⟨output, cursor⟩
    if final = 1 then return state else blocks? rounds state

def inflate? (cursor : Cursor) : Option Inflating := blocks? cursor.left ⟨ByteArray.empty, cursor⟩

end RecordFlow.Gzip
