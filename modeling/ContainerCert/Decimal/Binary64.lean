/-!
# Numbers of double precision

A finite nonnegative number of double precision is a whole number times a power of two. Here are
the numbers themselves and the rounding of a quotient to the nearest of them, a tie going to the
even mantissa; all of it is exact arithmetic on natural numbers.
-/

namespace ContainerCert.Decimal

/-- The value `mantissa · 2 ^ exponent`, with `exponent` between `-1074` and `971`, kept as its
distance above `-1074`; the mantissa has 53 bits, fewer only at the lowest exponent. -/
structure Binary64 where
  mantissa : Nat
  raised : Nat
  deriving DecidableEq, Repr

namespace Binary64

/-- The number zero. -/
def zero : Binary64 := ⟨0, 0⟩

/-- The value as a quotient of natural numbers. -/
def quotient (x : Binary64) : Nat × Nat :=
  (x.mantissa * Nat.pow 2 x.raised, Nat.pow 2 1074)

/-- The quotient rounded to a whole number, a tie going to the even one. -/
def roundDiv (num den : Nat) : Nat :=
  let q := num / den
  let r := num % den
  if 2 * r > den || (2 * r == den && q % 2 == 1) then q + 1 else q

/-- How far the exponent has to be raised above `-1074` for the quotient to have a mantissa of at
most 53 bits before rounding. -/
def raiseFor (num den : Nat) : Nat :=
  let scaled := num * Nat.pow 2 1074 / den
  if scaled < Nat.pow 2 53 then 0 else Nat.log2 scaled - 52

/-- The number nearest to a quotient, or none when it is too large for double precision. -/
def nearest? (num den : Nat) : Option Binary64 :=
  if den = 0 then none
  else
    let raised := raiseFor num den
    let m := roundDiv (num * Nat.pow 2 1074) (den * Nat.pow 2 raised)
    let x : Binary64 := if m = Nat.pow 2 53 then ⟨Nat.pow 2 52, raised + 1⟩ else ⟨m, raised⟩
    if x.raised > 1074 + 971 then none else some x

/-- The product, rounded. -/
def mul? (x y : Binary64) : Option Binary64 :=
  let (a, b) := x.quotient
  let (c, d) := y.quotient
  nearest? (a * c) (b * d)

/-- The quotient, rounded; none for a division by zero. -/
def div? (x y : Binary64) : Option Binary64 :=
  let (a, b) := x.quotient
  let (c, d) := y.quotient
  nearest? (a * d) (b * c)

/-- The number nearest to `digits · 10 ^ exponent`. Exponents beyond the range of double precision
are not multiplied out. -/
def ofDecimal? (digits : Nat) (exponent : Int) : Option Binary64 :=
  if digits = 0 then some zero
  else
    let size := (Nat.toDigits 10 digits).length
    if exponent + size > 310 then none
    else if exponent + size < -330 then some zero
    else if 0 ≤ exponent then nearest? (digits * Nat.pow 10 exponent.toNat) 1
    else nearest? digits (Nat.pow 10 (-exponent).toNat)

end Binary64
end ContainerCert.Decimal
