/-! Cutting a text into pieces, empty ones included, and at the blanks around it. -/

namespace RecordFlow.Text

/-- The Unicode property `White_Space`. -/
def isBlank (c : Char) : Bool :=
  let n := c.toNat
  (9 ≤ n && n ≤ 13) || n == 0x20 || n == 0x85 || n == 0xA0 || n == 0x1680 ||
    (0x2000 ≤ n && n ≤ 0x200A) || n == 0x2028 || n == 0x2029 || n == 0x202F || n == 0x205F ||
    n == 0x3000

def trimStart (text : List Char) : List Char := text.dropWhile isBlank

def trimEnd (text : List Char) : List Char := (text.reverse.dropWhile isBlank).reverse

def trim (text : List Char) : List Char := trimEnd (trimStart text)

def trimmed (text : String) : String := String.ofList (trim text.toList)

def consFirst (c : Char) : List (List Char) → List (List Char)
  | [] => [[c]]
  | piece :: rest => (c :: piece) :: rest

def piecesAt (cut : Char) : List Char → List (List Char)
  | [] => [[]]
  | c :: rest => if c = cut then [] :: piecesAt cut rest else consFirst c (piecesAt cut rest)

/-- The pieces between the leftmost non-overlapping occurrences of `first :: more`. `piece` is the
piece begun and `found` are the pieces before it, both in reverse. -/
def piecesFrom (first : Char) (more piece : List Char) (found : List (List Char)) :
    List Char → List (List Char)
  | [] => (piece.reverse :: found).reverse
  | c :: rest =>
    if c = first ∧ more.isPrefixOf rest then
      piecesFrom first more [] (piece.reverse :: found) (rest.drop more.length)
    else piecesFrom first more (c :: piece) found rest
termination_by text => text.length
decreasing_by all_goals simp only [List.length_cons, List.length_drop]; omega

def piecesBetween (first : Char) (more text : List Char) : List (List Char) :=
  piecesFrom first more [] [] text

def splitFirst? (cut : Char) : List Char → Option (List Char × List Char)
  | [] => none
  | c :: rest =>
    if c = cut then some ([], rest)
    else (splitFirst? cut rest).map fun (before, after) => (c :: before, after)

def withoutReturn (line : List Char) : List Char :=
  if line.getLast? = some '\r' then line.dropLast else line

/-- The lines of a text. A carriage return right before a line feed belongs to the line break, and
what follows the last line feed is a line only if it is not empty. -/
def lines (text : List Char) : List (List Char) :=
  let pieces := piecesAt '\n' text
  pieces.dropLast.map withoutReturn ++ (pieces.getLast?.filter (· ≠ [])).toList

end RecordFlow.Text
