import ContainerCert.Text.Cut
import ContainerCert.Text.Hex

/-!
# Tables over code points

Sets of characters are kept as ranges of code points with both ends included. A large table is
written as a text of hexadecimal numbers: a range is two of them with a hyphen between, the words
of a row are parted by blanks, and rows by semicolons.
-/

namespace ContainerCert.Text

/-- Whether some range of the table holds the number. -/
def inRanges (table : List (Nat × Nat)) (n : Nat) : Bool :=
  table.any fun (low, high) => low ≤ n && n ≤ high

/-- The words of a text that is parted by blanks and line ends. -/
def wordsOf (text : List Char) : List (List Char) :=
  (splitAt ' ' (text.map fun c => if c = '\n' then ' ' else c)).filter (!·.isEmpty)

/-- The number that a word stands for. -/
def numberOf (word : List Char) : Nat :=
  (Hex.number? word).getD 0

/-- The range that a word stands for: two numbers, or one that is both ends. -/
def rangeOf (word : List Char) : Nat × Nat :=
  match cutFirst? '-' word with
  | some (low, high) => (numberOf low, numberOf high)
  | none => (numberOf word, numberOf word)

/-- The ranges of a table without rows. -/
def rangesOf (table : String) : List (Nat × Nat) :=
  (wordsOf table.toList).map rangeOf

/-- The rows of a table, each by its first word and the words after it. -/
def rowsOf (table : String) : List (List Char × List (List Char)) :=
  (splitAt ';' table.toList).filterMap fun row =>
    match wordsOf row with
    | [] => none
    | first :: rest => some (first, rest)

end ContainerCert.Text
