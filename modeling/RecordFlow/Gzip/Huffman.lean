/-!
Bits, lowest first, and canonical Huffman codes: words of one length are numbered in the order of the symbols,
and follow those of the shorter lengths.
-/

namespace RecordFlow.Gzip

structure Cursor where
  data : ByteArray
  bit : Nat

namespace Cursor

def left (cursor : Cursor) : Nat := 8 * cursor.data.size - cursor.bit

def next? (cursor : Cursor) : Option (Nat × Cursor) :=
  cursor.data[cursor.bit / 8]?.map fun byte =>
    ((byte.toNat.testBit (cursor.bit % 8)).toNat, { cursor with bit := cursor.bit + 1 })

def number? : (n : Nat) → Cursor → Option (Nat × Cursor)
  | 0, cursor => some (0, cursor)
  | n + 1, cursor => do
    let (low, cursor) ← cursor.next?
    let (high, cursor) ← number? n cursor
    return (low + 2 * high, cursor)

def aligned (cursor : Cursor) : Cursor := { cursor with bit := (cursor.bit + 7) / 8 * 8 }

end Cursor

def maxWord : Nat := 15

/-- A canonical code: how many words there are of each length from one on, and the symbols in the
order of their words. -/
structure Code where
  counts : List Nat
  symbols : Array Nat

namespace Code

def symbolsOf (lengths : List Nat) (length : Nat) : List Nat :=
  (lengths.zipIdx.filter fun (l, _) => l == length).map Prod.snd

/-- The words fill the code space, or there is none at all, or only one of a single bit. -/
def isUsable (lengths : List Nat) : Bool :=
  let used := lengths.filter (· ≠ 0)
  let space := used.foldl (fun sum l => sum + Nat.pow 2 (maxWord - l)) 0
  space == Nat.pow 2 maxWord || used == [] || used == [1]

def ofLengths? (lengths : List Nat) : Option Code :=
  if isUsable lengths then
    let rows := (List.range maxWord).map fun i => symbolsOf lengths (i + 1)
    some ⟨rows.map List.length, rows.flatten.toArray⟩
  else none

/-- Reads the rest of a word. `word` holds the bits so far, `first` is the first word of the length
read next, `index` the position of its symbol. -/
def symbolFrom? (symbols : Array Nat) (word first index : Nat) :
    List Nat → Cursor → Option (Nat × Cursor)
  | [], _ => none
  | count :: longer, cursor => do
    let (bit, cursor) ← cursor.next?
    let word := 2 * word + bit
    if word < first + count then
      let symbol ← symbols[index + (word - first)]?
      return (symbol, cursor)
    else symbolFrom? symbols word (2 * (first + count)) (index + count) longer cursor

def symbol? (code : Code) (cursor : Cursor) : Option (Nat × Cursor) :=
  symbolFrom? code.symbols 0 0 0 code.counts cursor

end Code

end RecordFlow.Gzip
