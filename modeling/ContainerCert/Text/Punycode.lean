import ContainerCert.Text.Cut

/-!
# Text in letters, digits and hyphens

Punycode writes any text with the letters, digits and the hyphen of ASCII. The ASCII characters of
the text come first, with a hyphen behind them if there are any; the others follow in the order of
their numbers, each by the distance from the one before: over all numbers between them, and within
one number over all places of the text where it could stand. A distance is written with digits to
the base 36, the lowest first, and a digit below a threshold is the last. The thresholds adapt to
the size of the distances.
-/

namespace ContainerCert.Text.Punycode

/-- The base of the digits. -/
def base : Nat := 36

/-- The lowest threshold. -/
def lowest : Nat := 1

/-- The highest threshold. -/
def highest : Nat := 26

/-- The bias of the first distance. -/
def firstBias : Nat := 72

/-- The first number beyond ASCII. -/
def firstNumber : Nat := 0x80

/-- Distances and numbers stay below this. -/
def limit : Nat := Nat.pow 2 32

/-- A digit: the letters come before the figures. -/
def digit (n : Nat) : Char :=
  if n < 26 then Char.ofNat ('a'.toNat + n) else Char.ofNat ('0'.toNat + (n - 26))

/-- The value of a digit. -/
def value? (c : Char) : Option Nat :=
  if c.isDigit then some (c.toNat - '0'.toNat + 26)
  else if c.isLower then some (c.toNat - 'a'.toNat)
  else if c.isUpper then some (c.toNat - 'A'.toNat)
  else none

/-- The threshold of the digit at a position, which counts in steps of the base. -/
def threshold (position bias : Nat) : Nat :=
  max lowest (min highest (position - bias))

theorem lowest_le_threshold (position bias : Nat) : 1 ≤ threshold position bias := by
  simp only [threshold, lowest]; omega

/-- Bring a distance down to the size in which the bias is told, counting the steps. -/
def scaledDown (delta count : Nat) : Nat × Nat :=
  if (base - lowest) * highest / 2 < delta then scaledDown (delta / (base - lowest)) (count + 1)
  else (delta, count)
termination_by delta
decreasing_by
  simp only [base, lowest, highest] at *
  exact Nat.div_lt_self (by omega) (by omega)

/-- The bias after a distance, with the count of characters that are placed by now. -/
def adapted (delta count : Nat) (isFirst : Bool) : Nat :=
  let delta := if isFirst then delta / 700 else delta / 2
  let (delta, steps) := scaledDown (delta + delta / count) 0
  base * steps + (base - lowest + 1) * delta / (delta + 38)

/-- The digits of a distance from a position on. -/
def digitsOf (bias position delta : Nat) : List Char :=
  let t := threshold position bias
  if delta < t then [digit delta]
  else
    digit (t + (delta - t) % (base - t)) ::
      digitsOf bias (position + base) ((delta - t) / (base - t))
termination_by delta
decreasing_by
  have := lowest_le_threshold position bias
  have := Nat.div_le_self (delta - threshold position bias) (base - threshold position bias)
  omega

/-- How far the writing of a text has come: the number that is being placed, the distance since
the last digits, the bias, and the count of characters that are placed. -/
structure Progress where
  number : Nat
  delta : Nat
  bias : Nat
  placed : Nat

/-- Write the places of one number in the text. -/
def placesOf (basicCount : Nat) : List Char → Progress → List Char × Progress
  | [], progress => ([], progress)
  | c :: rest, progress =>
    if c.toNat < progress.number then
      placesOf basicCount rest { progress with delta := progress.delta + 1 }
    else if c.toNat = progress.number then
      let digits := digitsOf progress.bias base progress.delta
      let bias := adapted progress.delta (progress.placed + 1) (progress.placed == basicCount)
      let (more, progress) :=
        placesOf basicCount rest ⟨progress.number, 0, bias, progress.placed + 1⟩
      (digits ++ more, progress)
    else placesOf basicCount rest progress

/-- Write the numbers of a list, which are in order, with their places in the text. -/
def numbersOf (basicCount : Nat) (text : List Char) : List Nat → Progress → List Char
  | [], _ => []
  | number :: rest, progress =>
    let reached := progress.delta + (number - progress.number) * (progress.placed + 1)
    let (digits, progress) :=
      placesOf basicCount text { progress with number, delta := reached }
    digits ++ numbersOf basicCount text rest
      { progress with number := number + 1, delta := progress.delta + 1 }

/-- Whether a character stands for itself. -/
def isBasic (c : Char) : Bool :=
  decide (c.toNat < firstNumber)

/-- Put a number into a list that is in order, unless it is there. -/
def insertNumber (n : Nat) : List Nat → List Nat
  | [] => [n]
  | m :: rest =>
    if n < m then n :: m :: rest
    else if n = m then m :: rest
    else m :: insertNumber n rest

/-- The text in letters, digits and hyphens. -/
def encode (text : List Char) : List Char :=
  let basic := text.filter isBasic
  let numbers := ((text.filter (!isBasic ·)).map Char.toNat).foldr insertNumber []
  basic ++ (if basic.isEmpty then [] else ['-']) ++
    numbersOf basic.length text numbers ⟨firstNumber, 0, firstBias, basic.length⟩

/-- Read a distance from a position on, with the weight of its next digit; also returns the text
after it. -/
def distance? (bias : Nat) : Nat → Nat → Nat → List Char → Option (Nat × List Char)
  | _, _, _, [] => none
  | position, weight, delta, c :: rest => do
    let n ← value? c
    let delta := delta + n * weight
    if limit ≤ delta then none
    else
      let t := threshold position bias
      if n < t then return (delta, rest)
      else
        let weight := weight * (base - t)
        if limit ≤ weight then none else distance? bias (position + base) weight delta rest

/-- What is left after a distance is shorter. -/
theorem length_lt_of_distance? {bias position weight delta : Nat} {text rest : List Char}
    {reached : Nat} (h : distance? bias position weight delta text = some (reached, rest)) :
    rest.length < text.length := by
  induction text generalizing position weight delta with
  | nil => simp [distance?] at h
  | cons c text ih =>
    simp only [distance?, Option.bind_eq_bind, Option.bind_eq_some_iff] at h
    obtain ⟨n, -, h⟩ := h
    split at h
    · simp at h
    · split at h
      · simp only [Option.pure_def, Option.some.injEq, Prod.mk.injEq] at h
        simp [← h.2]
      · split at h
        · simp at h
        · have := ih h; simp only [List.length_cons]; omega

/-- Read the characters beyond ASCII into the text that is placed so far. The place is the one
behind the character that was placed last. -/
def placed? (number start bias : Nat) (text : List Char) (isFirst : Bool) (digits : List Char) :
    Option (List Char) :=
  if digits.isEmpty then some text
  else match h : distance? bias base 1 start digits with
    | none => none
    | some (reached, rest) =>
      have : rest.length < digits.length := length_lt_of_distance? h
      let count := text.length + 1
      let number := number + reached / count
      let place := reached % count
      if number.isValidChar then
        placed? number (place + 1) (adapted (reached - start) count isFirst)
          (text.take place ++ Char.ofNat number :: text.drop place) false rest
      else none
termination_by digits.length

/-- The text that was written; none when it is no such text. -/
def decode? (text : List Char) : Option (List Char) :=
  match cutLast? '-' text with
  | some (basic, digits) =>
    if basic.isEmpty then none else placed? firstNumber 0 firstBias basic true digits
  | none => placed? firstNumber 0 firstBias [] true text

end ContainerCert.Text.Punycode
