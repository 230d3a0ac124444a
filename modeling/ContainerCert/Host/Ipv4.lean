import ContainerCert.Text.Cut
import ContainerCert.Text.Hex

/-!
# Addresses of four bytes

A name whose last label is a number is an address of four bytes. It has up to four numbers, each
decimal, octal behind a zero or hexadecimal behind `0x`; the last one fills the bytes that are left.
-/

namespace ContainerCert.Host.Ipv4

open Text (splitAt joinWith)

/-- The value of a row of digits to a base; none when one of them is no such digit. -/
def valueOf? (base : Nat) (row : List Char) : Option Nat :=
  if row.all fun c => (Text.Hex.value? c).any (· < base) then
    some (row.foldl (fun n c => base * n + (Text.Hex.value? c).getD 0) 0)
  else none

/-- The number that a label stands for. -/
def number? : List Char → Option Nat
  | [] => none
  | '0' :: 'x' :: row => valueOf? 16 row
  | '0' :: 'X' :: row => valueOf? 16 row
  | '0' :: c :: row => valueOf? 8 (c :: row)
  | row => valueOf? 10 row

/-- The labels of a name without the empty one behind a point at the end. -/
def labels (name : List Char) : List (List Char) :=
  match (splitAt '.' name).reverse with
  | [] :: rest => rest.reverse
  | parts => parts.reverse

/-- Whether a name must be an address: whether its last label is a row of digits or a number. -/
def isMeant (name : List Char) : Bool :=
  match (labels name).getLast? with
  | none => false
  | some label => (!label.isEmpty && label.all Char.isDigit) || (number? label).isSome

/-- The address of some numbers, which are single bytes but for the last one. -/
def ofNumbers? : Nat → List Nat → Option Nat
  | 0, _ => none
  | _, [] => none
  | room + 1, [last] => if last < Nat.pow 256 (room + 1) then some last else none
  | room + 1, byte :: rest =>
    if byte < 256 then (ofNumbers? room rest).map (byte * Nat.pow 256 room + ·) else none

/-- The address that a name stands for. -/
def ofName? (name : List Char) : Option Nat := do
  let numbers ← (labels name).mapM number?
  ofNumbers? 4 numbers

/-- The bytes of an address in decimal digits, parted by points. -/
def shown (address : Nat) : List Char :=
  joinWith '.' ([3, 2, 1, 0].map fun place => Nat.toDigits 10 (address / Nat.pow 256 place % 256))

end ContainerCert.Host.Ipv4
