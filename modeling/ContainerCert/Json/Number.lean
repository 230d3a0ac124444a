import ContainerCert.Data.Tree
import ContainerCert.Decimal.Shortest

/-!
# Numbers in JSON texts

A number without point and exponent that fits into 64 bits is whole; `-0`, a whole number beyond
64 bits and every number with a point or an exponent have double precision. For these the digits
are gathered into a significand of 64 bits: digits that no longer fit are dropped, those before
the point raising the exponent, and the power of ten is then multiplied or divided in double
precision.
-/

namespace ContainerCert.Json

open Data (Tree)
open Decimal (Binary64)

/-- The parts of a number as they are written. -/
structure Numeral where
  negative : Bool
  whole : List Char
  /-- The digits after the point, where there is one. -/
  fraction : Option (List Char)
  /-- Whether the exponent is negative, and its digits, where there is one. -/
  exponent : Option (Bool × List Char)
  deriving DecidableEq, Repr

namespace Numeral

/-- A row of digits at the start of the text, and what follows it. -/
def digits (chars : List Char) : List Char × List Char :=
  (chars.takeWhile Char.isDigit, chars.dropWhile Char.isDigit)

/-- The digits before the point: a zero, or a row that does not start with a zero. -/
def whole? (chars : List Char) : Option (List Char × List Char) :=
  match digits chars with
  | ([], _) => none
  | ('0' :: _ :: _, _) => none
  | (row, rest) => some (row, rest)

/-- The point and the digits after it, if there is a point. -/
def fraction? : List Char → Option (Option (List Char) × List Char)
  | '.' :: chars =>
    match digits chars with
    | ([], _) => none
    | (row, rest) => some (some row, rest)
  | chars => some (none, chars)

/-- The sign of an exponent. -/
def exponentSign : List Char → Bool × List Char
  | '+' :: chars => (false, chars)
  | '-' :: chars => (true, chars)
  | chars => (false, chars)

/-- The exponent, if there is one. -/
def exponent? : List Char → Option (Option (Bool × List Char) × List Char)
  | [] => some (none, [])
  | c :: chars =>
    if c = 'e' ∨ c = 'E' then
      let (negative, chars) := exponentSign chars
      match digits chars with
      | ([], _) => none
      | (row, rest) => some (some (negative, row), rest)
    else some (none, c :: chars)

/-- A number after its sign. -/
def unsigned? (negative : Bool) (chars : List Char) : Option (Numeral × List Char) := do
  let (whole, chars) ← whole? chars
  let (fraction, chars) ← fraction? chars
  let (exponent, chars) ← exponent? chars
  return (⟨negative, whole, fraction, exponent⟩, chars)

/-- The number at the start of a text, and what follows it. -/
def read? : List Char → Option (Numeral × List Char)
  | '-' :: chars => unsigned? true chars
  | chars => unsigned? false chars

/-- The value of a digit. -/
def digitValue (c : Char) : Nat :=
  c.toNat - '0'.toNat

/-- The value of a row of digits. -/
def valueOf (row : List Char) : Nat :=
  row.foldl (fun n c => 10 * n + digitValue c) 0

/-- Add a row of digits to a significand as long as the next one fits into 64 bits; also returns
the digits that were left over. -/
def gather : Nat → List Char → Nat × List Char
  | significand, [] => (significand, [])
  | significand, c :: row =>
    let next := 10 * significand + digitValue c
    if next < UInt64.size then gather next row else (significand, c :: row)

/-- The significand and the power of ten that goes with it, without the written exponent. -/
def scaled (n : Numeral) : Nat × Int :=
  let (significand, dropped) := gather 0 n.whole
  match n.fraction with
  | none => (significand, dropped.length)
  | some fraction =>
    let (significand, left) := gather significand fraction
    (significand, dropped.length - (fraction.length - left.length : Nat))

/-- The exponents that a number can be raised by in one step. -/
def widestStep : Nat := 308

/-- The number divided by a power of ten, in steps of at most the widest. -/
def divideBy (x : Binary64) (power : Nat) : Option Binary64 :=
  if x = Binary64.zero then some x
  else if power ≤ widestStep then do
    let divisor ← Binary64.nearest? (Nat.pow 10 power) 1
    x.div? divisor
  else do
    let divisor ← Binary64.nearest? (Nat.pow 10 widestStep) 1
    let smaller ← x.div? divisor
    divideBy smaller (power - widestStep)
termination_by power
decreasing_by simp only [widestStep] at *; omega

/-- A significand times a power of ten in double precision; none when it is too large. -/
def raise (significand : Nat) (power : Int) : Option Binary64 := do
  let x ← Binary64.nearest? significand 1
  if 0 ≤ power then
    if power ≤ widestStep then
      let factor ← Binary64.nearest? (Nat.pow 10 power.toNat) 1
      x.mul? factor
    else if x = Binary64.zero then return x
    else none
  else divideBy x power.natAbs

/-- The bound of an exponent that is still read as a number. -/
def exponentLimit : Nat := Nat.pow 2 31

/-- The value in double precision, without its sign. -/
def magnitude? (n : Numeral) : Option Binary64 :=
  let (significand, power) := n.scaled
  match n.exponent with
  | none => raise significand power
  | some (below, row) =>
    let exponent := valueOf row
    if exponentLimit ≤ exponent then
      if significand = 0 ∨ below then some Binary64.zero else none
    else raise significand (if below then power - exponent else power + exponent)

/-- Numbers that messages show are positional from `0.00001` up to below `10 ^ 16`. -/
def layout : Decimal.Layout := ⟨.toEven, some (-5), some 16⟩

/-- The text that messages show for a number of double precision. -/
def shown (negative : Bool) (x : Binary64) : String :=
  String.ofList ((if negative then ['-'] else []) ++ Decimal.write layout x)

/-- A number of double precision, or a number that is too large. -/
def floating (n : Numeral) : Tree :=
  match n.magnitude? with
  | some x => .floating (shown n.negative x)
  | none => .garbled

/-- What the number says. -/
def tree (n : Numeral) : Tree :=
  match n.fraction, n.exponent with
  | none, none =>
    let value := valueOf n.whole
    if n.negative then
      if 0 < value ∧ value ≤ Nat.pow 2 63 then .negative value else n.floating
    else if value < UInt64.size then .natural value
    else n.floating
  | _, _ => n.floating

end Numeral
end ContainerCert.Json
