/-!
# Hexadecimal digits

The digits of numbers to the base sixteen: written in lower case, read in either case.
-/

namespace ContainerCert.Text.Hex

/-- The digit of a value below sixteen. -/
def digit (n : Nat) : Char :=
  "0123456789abcdef".toList.getD n '0'

/-- The value of a digit. -/
def value? (c : Char) : Option Nat :=
  let n := c.toNat
  if '0'.toNat ≤ n ∧ n ≤ '9'.toNat then some (n - '0'.toNat)
  else if 'a'.toNat ≤ n ∧ n ≤ 'f'.toNat then some (n - 'a'.toNat + 10)
  else if 'A'.toNat ≤ n ∧ n ≤ 'F'.toNat then some (n - 'A'.toNat + 10)
  else none

/-- The number that a row of digits stands for. -/
def number? (row : List Char) : Option Nat :=
  row.foldl (fun n c => do
    let n ← n
    let d ← value? c
    return n * 16 + d) (some 0)

end ContainerCert.Text.Hex
