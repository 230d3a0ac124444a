import ContainerCert.Text.Cut
import ContainerCert.Text.Hex

/-!
# Addresses of eight pieces

An address of eight pieces of 16 bits has a hexadecimal number for each piece, parted by colons.
Two colons stand once for one or more pieces that are zero, and the last two pieces may be four
decimal bytes parted by points. It is written with two colons for the longest row of zeros.
-/

namespace ContainerCert.Host.Ipv6

open Text (splitAt joinWith)

/-- A piece: up to four digits. -/
def piece? (row : List Char) : Option Nat :=
  if row.isEmpty || decide (4 < row.length) then none else Text.Hex.number? row

/-- A decimal byte, without zeros in front. -/
def byte? (row : List Char) : Option Nat :=
  if row.isEmpty || !row.all Char.isDigit || (row.head? == some '0' && row != ['0']) then none
  else
    let n := row.foldl (fun n c => 10 * n + (c.toNat - '0'.toNat)) 0
    if n < 256 then some n else none

/-- The two pieces that four decimal bytes make. -/
def bytes? (text : List Char) : Option (List Nat) := do
  match ← (splitAt '.' text).mapM byte? with
  | [a, b, c, d] => some [256 * a + b, 256 * c + d]
  | _ => none

/-- The pieces between colons, of which only the last one may be bytes. -/
def piecesOf? : List (List Char) → Option (List Nat)
  | [] => some []
  | [last] => if last.contains '.' then bytes? last else (piece? last).map ([·])
  | row :: rest => do
    let n ← piece? row
    let more ← piecesOf? rest
    return n :: more

/-- The pieces of a text on one side of two colons. -/
def side? (text : List Char) : Option (List Nat) :=
  if text.isEmpty then some [] else piecesOf? (splitAt ':' text)

/-- What stands before and after the first two colons. -/
def cutColons? : List Char → Option (List Char × List Char)
  | [] => none
  | ':' :: ':' :: rest => some ([], rest)
  | c :: rest => (cutColons? rest).map fun (before, after) => (c :: before, after)

/-- The pieces of an address. -/
def ofText? (text : List Char) : Option (List Nat) :=
  match cutColons? text with
  | none => do
    let pieces ← side? text
    if pieces.length = 8 then some pieces else none
  | some (before, after) => do
    let front ← if before.contains '.' then none else side? before
    let back ← side? after
    let missing := 8 - (front.length + back.length)
    if missing = 0 then none else some (front ++ List.replicate missing 0 ++ back)

/-- The count of zeros at the start of some pieces. -/
def zerosAhead (pieces : List Nat) : Nat :=
  (pieces.takeWhile (· == 0)).length

/-- The length of the longest row of zeros. -/
def longestZeros : List Nat → Nat
  | [] => 0
  | n :: rest => max (zerosAhead (n :: rest)) (longestZeros rest)

/-- The pieces before and after the first row of zeros of a length. -/
def cutZeros? (length : Nat) : List Nat → Option (List Nat × List Nat)
  | [] => none
  | n :: rest =>
    if zerosAhead (n :: rest) = length then some ([], (n :: rest).drop length)
    else (cutZeros? length rest).map fun (before, after) => (n :: before, after)

/-- Pieces parted by colons. -/
def written (pieces : List Nat) : List Char :=
  joinWith ':' (pieces.map (Nat.toDigits 16))

/-- The text of an address. A single zero is written as it is. -/
def shown (pieces : List Nat) : List Char :=
  let length := longestZeros pieces
  match if length < 2 then none else cutZeros? length pieces with
  | none => written pieces
  | some (before, after) => written before ++ ':' :: ':' :: written after

end ContainerCert.Host.Ipv6
