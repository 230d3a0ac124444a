import ContainerCert.Text.Mark

/-!
# The direction of labels

In a name that holds letters written from right to left, every label has one direction and keeps to
it: it starts with a letter of the direction, holds no letter of the other one, and ends, marks
aside, with a letter or a digit. Tables hold the characters of Unicode 17 beyond ASCII that can
stand in a name.
-/

namespace ContainerCert.Host

open Text (inRanges isNonspacing rangesOf)

/-- How a character behaves where text of both directions meets. -/
inductive Direction where
  | left
  | right
  | europeanDigit
  | arabicDigit
  /-- A mark, which goes with the character before it. -/
  | mark
  /-- A sign that belongs to neither direction. -/
  | neutral
  deriving DecidableEq, Repr

namespace Direction

/-- Letters written from right to left. -/
def rightLetters : List (Nat × Nat) := rangesOf "
  5be 5c0 5c3 5c6 5d0-5f4 608 60b 60d 61b-64a 66d-66f 671-6d5 6e5-6e6 6ee-6ef 6fa-710 712-72f
  74d-7a5 7b1-7ea 7f4-7f5 7fa 7fe-815 81a 824 828 830-858 85e-88f 8a0-8c9 fbb2-fbd2 fe73
  10800-1091b 10920-10a00 10a10-10a35 10a40-10ae4 10aeb-10b35 10b40-10d23 10d40-10d4f
  10d6f-10d8f 10e80-10ea9 10ead-10ed8 10f00-10f45 10f51-10f81 10f86-10ff6 1e800-1e8cf
  1e922-1e943 1e94b-1ed3d"

/-- Digits that are used with Arabic letters. -/
def arabicDigits : List (Nat × Nat) := rangesOf "
  660-669 66b-66c 10d30-10d39 10e60-10e7e"

/-- Digits that are used with any letters. -/
def europeanDigits : List (Nat × Nat) := rangesOf "
  6f0-6f9 102e1-102fb"

/-- Signs of neither direction. -/
def neutrals : List (Nat × Nat) := rangesOf "
  a1-d7 f7 2b9-2ba 2c2-2cf 2d2-2ed 2ef-2ff 375 3f6 58a-58f 606-607 609-60a 60c 60e-60f 66a 6de
  6e9 7f6-7f9 9f2-9f3 9fb af1 bf3-bfa c78-c7e e3f f3a-f3d 1390-1399 1400 169b-169c 17db
  17f0-180a 1940-1945 19de-19ff 200c-20c1 2104-214d 218a-2335 237b-2394 2396-26ab 26ad-27ff
  2900-2bff 2ce5-2cea 2cf9-2cff 2e00-3004 3008-3020 3030 3037 303d-303f 30a0 30fb 31c0-31e5
  4dc0-4dff a490-a4c6 a60d-a60f a673 a67e-a67f a700-a721 a788 a828-a82b a838-a839 a874-a877
  ab6a-ab6b fd3e-fdff fe45-fe46 10101 10140-1018c 10190-101a0 1091f 10b39-10b3f 10d6e
  11052-11065 11660-1166c 11fd5-11ff1 16fe2 1cc00-1cef0 1d1e9-1d241 1d245 1d300-1d356 1e2ff
  1eef0-1f12f 1f16d-1f16f 1f1ad 1f260-1fbfa"

/-- Marks without room of their own that nevertheless count as letters. -/
def letterMarks : List (Nat × Nat) := rangesOf "cbf cc6 11a07-11a08 11c3f"

/-- How a character of ASCII behaves. -/
def ofAscii (c : Char) : Direction :=
  if c.isAlpha then .left else if c.isDigit then .europeanDigit else .neutral

/-- How a character behaves. -/
def of (c : Char) : Direction :=
  let n := c.toNat
  if n < 0x80 then ofAscii c
  else if inRanges rightLetters n then .right
  else if inRanges arabicDigits n then .arabicDigit
  else if inRanges europeanDigits n then .europeanDigit
  else if isNonspacing c && !inRanges letterMarks n then .mark
  else if inRanges neutrals n then .neutral
  else .left

/-- Whether a character makes the direction of a whole name matter. -/
def isRightward (direction : Direction) : Bool :=
  direction = .right || direction = .arabicDigit

/-- Whether a label from left to right may end so. -/
def endsLeft (direction : Direction) : Bool :=
  direction = .left || direction = .europeanDigit

/-- Whether a label from right to left may end so. -/
def endsRight (direction : Direction) : Bool :=
  direction = .right || direction = .europeanDigit || direction = .arabicDigit

/-- Whether a label keeps to one direction. -/
def agree (label : List Direction) : Bool :=
  let last? := (label.reverse.dropWhile (· == .mark)).head?
  match label.head? with
  | some .left => label.all (!isRightward ·) && last?.all endsLeft
  | some .right =>
    !label.contains .left && last?.all endsRight &&
      !(label.contains .europeanDigit && label.contains .arabicDigit)
  | some _ => false
  | none => true

end Direction

/-- Whether the labels of a name keep to their directions, which matters only when one of them
holds a character from right to left. -/
def directionsAgree (labels : List (List Char)) : Bool :=
  let labels := labels.map (·.map Direction.of)
  !labels.any (·.any Direction.isRightward) || labels.all Direction.agree

end ContainerCert.Host
