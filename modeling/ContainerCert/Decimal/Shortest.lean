import ContainerCert.Decimal.Binary64

/-!
# The shortest decimal text of a number

A number of double precision is written with the fewest decimal digits that read back as the
same number, and of those the nearest to it. The digits come from exact arithmetic: a decimal
reads back exactly when it lies in the interval of values that round to the number, and on the
grid of decimals with a given count of digits only the two neighbours of the value need a look.

Which of two neighbours is taken when both are as near, where the point goes and when an exponent
is written is the choice of a format, kept in a `Layout`.
-/

namespace ContainerCert.Decimal

/-- Which of two decimals is taken for a value in the middle between them. -/
inductive Tie where
  | toEven
  | upward
  deriving DecidableEq, Repr

/-- Whether the lower of two decimals is taken, by its last digit. -/
def Tie.takesLower (tie : Tie) (lower : Nat) : Bool :=
  match tie with
  | .toEven => lower % 2 == 0
  | .upward => false

/-- A positive decimal `0.d₁d₂… · 10 ^ point`. -/
structure Digits where
  digits : List Nat
  point : Int
  deriving DecidableEq, Repr

namespace Digits

/-- The decimal digits of a natural number. -/
def ofNat (n : Nat) : List Nat :=
  (Nat.toDigits 10 n).map fun c => c.toNat - '0'.toNat

/-- The digits without the zeros at the end. -/
def stripped (digits : List Nat) : List Nat :=
  (digits.reverse.dropWhile (· == 0)).reverse

/-- The least `k` with `num / den < 10 ^ k`, found by walking up from `-start`. -/
def magnitude (num den : Nat) (start : Nat) : Int :=
  let rec climb : Nat → Nat → Nat → Int
    | 0, _, k => (k : Int) - start
    | fuel + 1, bound, k =>
      if num * Nat.pow 10 start < bound * den then (k : Int) - start
      else climb fuel (bound * 10) (k + 1)
  climb (start + 310) 1 0

/-- The multiples of `10 ^ unit` next to `num / den`, below and above, with their reading-back
test and their distance, all over the common denominator. -/
def neighbour? (tie : Tie) (low high value den : Nat) (closed : Bool) (unit : Int) :
    Option Nat :=
  let up := Nat.pow 10 unit.toNat * den
  let down := Nat.pow 10 (-unit).toNat
  let reads (c : Nat) : Bool :=
    let x := c * up
    if closed then low * down ≤ x && x ≤ high * down else low * down < x && x < high * down
  let below := value * down / up
  let above := below + 1
  match reads below && below != 0, reads above with
  | true, false => some below
  | false, true => some above
  | true, true =>
    let under := value * down - below * up
    let excess := above * up - value * down
    if under < excess || (under == excess && tie.takesLower below) then some below else some above
  | false, false => none

/-- The shortest decimal that reads back as a positive number. -/
def shortest (tie : Tie) (x : Binary64) : Digits :=
  let even := x.mantissa % 2 == 0
  let value := 4 * x.mantissa * Nat.pow 2 x.raised
  let gapBelow := if x.mantissa = Nat.pow 2 52 && x.raised != 0 then 1 else 2
  let low := (4 * x.mantissa - gapBelow) * Nat.pow 2 x.raised
  let high := (4 * x.mantissa + 2) * Nat.pow 2 x.raised
  let den := 4 * Nat.pow 2 1074
  let point := magnitude value den 324
  let rec search : Nat → Nat → Digits
    | 0, _ => ⟨[], point⟩
    | fuel + 1, count =>
      match neighbour? tie low high value den even (point - count) with
      | some c =>
        let digits := ofNat c
        ⟨stripped digits, point + (digits.length - count : Int)⟩
      | none => search fuel (count + 1)
  search 17 1

end Digits

/-- Where a format puts the point and when it writes an exponent: positional from
`10 ^ lowest` up to below `10 ^ highest`, where `none` is no limit; and how it decides between
two decimals that are as near. -/
structure Layout where
  tie : Tie
  lowest : Option Int
  highest : Option Int
  deriving Repr

/-- A row of digits as characters. -/
def digitChars (digits : List Nat) : List Char :=
  digits.map fun d => Char.ofNat ('0'.toNat + d)

/-- A positive decimal in positional notation, always with a point and a digit on either side. -/
def positional (d : Digits) : List Char :=
  let n : Int := d.digits.length
  if d.point ≤ 0 then '0' :: '.' :: List.replicate (-d.point).toNat '0' ++ digitChars d.digits
  else if n ≤ d.point then
    digitChars d.digits ++ List.replicate (d.point - n).toNat '0' ++ ['.', '0']
  else
    digitChars (d.digits.take d.point.toNat) ++ '.' :: digitChars (d.digits.drop d.point.toNat)

/-- A positive decimal with one digit before the point and a signed exponent. -/
def scientific (d : Digits) : List Char :=
  let exponent := d.point - 1
  let sign := if exponent < 0 then '-' else '+'
  let tail := match d.digits.drop 1 with
    | [] => []
    | rest => '.' :: digitChars rest
  digitChars (d.digits.take 1) ++ tail ++ 'e' :: sign :: Nat.toDigits 10 exponent.natAbs

/-- The text of a nonnegative number. -/
def write (layout : Layout) (x : Binary64) : List Char :=
  if x.mantissa = 0 then ['0', '.', '0']
  else
    let d := Digits.shortest layout.tie x
    let highEnough := match layout.lowest with
      | some low => low < d.point
      | none => true
    let lowEnough := match layout.highest with
      | some high => d.point ≤ high
      | none => true
    if highEnough && lowEnough then positional d else scientific d

end ContainerCert.Decimal
