import ContainerCert.Data.Tree
import ContainerCert.Decimal.Shortest
import ContainerCert.Toml.Lexical

/-!
# Numbers and dates in TOML

A value that starts with a sign or a digit is a date or time, a number with a point or an exponent,
or a whole number of 64 bits, tried in this order. Dates must exist in the calendar; what they say
is of no use to any decoder, so they count as maps without entries.
-/

namespace ContainerCert.Toml

open Data (Tree)
open Decimal (Binary64)

/-- The value of a row of decimal digits. -/
def decimalValue (row : List Char) : Nat :=
  row.foldl (fun n c => 10 * n + (c.toNat - '0'.toNat)) 0

/-- The digits after the first one; an underscore may stand between two digits. -/
def moreDigits? (isDigit : Char → Bool) : Reader (List Char)
  | [] => some ([], [])
  | ['_'] => none
  | '_' :: c :: rest =>
    if isDigit c then (moreDigits? isDigit rest).map fun (row, rest) => (c :: row, rest) else none
  | c :: rest =>
    if isDigit c then (moreDigits? isDigit rest).map fun (row, rest) => (c :: row, rest)
    else some ([], c :: rest)

/-- A row of digits. -/
def digits? (isDigit : Char → Bool) : Reader (List Char)
  | [] => none
  | c :: rest =>
    if isDigit c then (moreDigits? isDigit rest).map fun (row, rest) => (c :: row, rest) else none

/-- A sign, if there is one: whether it is a minus, and the text after it. -/
def sign : List Char → Bool × List Char
  | '+' :: rest => (false, rest)
  | '-' :: rest => (true, rest)
  | text => (false, text)

/-- The digits of a whole number: a zero, or a row that does not start with one. -/
def wholeDigits? : Reader (List Char)
  | '0' :: rest => some (['0'], rest)
  | text => digits? Char.isDigit text

/-- The point and the digits after it. -/
def fraction? : Reader (List Char)
  | '.' :: rest => digits? Char.isDigit rest
  | _ => none

/-- An exponent. -/
def exponent? : Reader Int
  | c :: rest =>
    if c = 'e' ∨ c = 'E' then do
      let (negative, rest) := sign rest
      let (row, rest) ← digits? Char.isDigit rest
      let value : Int := decimalValue row
      return (if negative then -value else value, rest)
    else none
  | [] => none

/-- Numbers of double precision are always shown with all their places. -/
def floatLayout : Decimal.Layout := ⟨.upward, none, none⟩

/-- The text of a number of double precision. -/
def showFloat (negative : Bool) (x : Binary64) : String :=
  String.ofList ((if negative then ['-'] else []) ++ Decimal.write floatLayout x)

/-- A number of double precision; one that is too large is infinite, which only a negative one may
be. -/
def floatTree? (negative : Bool) (digits : List Char) (exponent : Int) : Option Tree :=
  match Binary64.ofDecimal? (decimalValue digits) exponent with
  | some x => some (.floating (showFloat negative x))
  | none => if negative then some (.floating "-inf") else none

/-- A number with a point or an exponent. -/
def float? (text : List Char) : Option (Tree × List Char) := do
  let (negative, text) := sign text
  let (whole, text) ← wholeDigits? text
  match fraction? text with
  | some (fraction, text) =>
    let (exponent, text) := (exponent? text).getD (0, text)
    let tree ← floatTree? negative (whole ++ fraction) (exponent - fraction.length)
    return (tree, text)
  | none => do
    let (exponent, text) ← exponent? text
    let tree ← floatTree? negative whole exponent
    return (tree, text)

/-- Infinity, or what is not a number. -/
def special? (text : List Char) : Option (Tree × List Char) :=
  let (negative, text) := sign text
  match text with
  | 'i' :: 'n' :: 'f' :: rest => some (.floating (if negative then "-inf" else "inf"), rest)
  | 'n' :: 'a' :: 'n' :: rest => some (.floating "NaN", rest)
  | _ => none

/-- A whole number, if it fits into 64 bits. -/
def wholeTree? (negative : Bool) (value : Nat) : Option Tree :=
  if negative ∧ value ≠ 0 then if value ≤ Nat.pow 2 63 then some (.negative value) else none
  else if value < Nat.pow 2 63 then some (.natural value) else none

/-- A digit to the base eight. -/
def isOctalDigit (c : Char) : Bool :=
  decide ('0' ≤ c) && decide (c ≤ '7')

/-- A digit to the base two. -/
def isBinaryDigit (c : Char) : Bool :=
  c == '0' || c == '1'

/-- A digit to the base sixteen. -/
def isHexDigit (c : Char) : Bool :=
  (Text.Hex.value? c).isSome

/-- A whole number to another base, after the mark of the base. -/
def basedInteger? (base : Nat) (isDigit : Char → Bool) (text : List Char) :
    Option (Tree × List Char) := do
  let (row, text) ← digits? isDigit text
  let value := row.foldl (fun n c => base * n + (Text.Hex.value? c).getD 0) 0
  let tree ← wholeTree? false value
  return (tree, text)

/-- A whole number. -/
def integer? : List Char → Option (Tree × List Char)
  | '0' :: 'x' :: rest => basedInteger? 16 isHexDigit rest
  | '0' :: 'o' :: rest => basedInteger? 8 isOctalDigit rest
  | '0' :: 'b' :: rest => basedInteger? 2 isBinaryDigit rest
  | text => do
    let (negative, text) := sign text
    let (row, text) ← wholeDigits? text
    let tree ← wholeTree? negative (decimalValue row)
    return (tree, text)

/-- Two digits that stand for a number up to a greatest. -/
def twoDigits? (greatest : Nat) : Reader Nat
  | a :: b :: rest =>
    let value := decimalValue [a, b]
    if a.isDigit ∧ b.isDigit ∧ value ≤ greatest then some (value, rest) else none
  | _ => none

/-- Whether a year has a leap day. -/
def isLeap (year : Nat) : Bool :=
  year % 4 == 0 && (year % 100 != 0 || year % 400 == 0)

/-- The count of days in a month. -/
def daysIn (year month : Nat) : Nat :=
  if month = 2 then if isLeap year then 29 else 28
  else if month = 4 ∨ month = 6 ∨ month = 9 ∨ month = 11 then 30
  else 31

/-- A day of the calendar. -/
def date? : Reader Unit
  | a :: b :: c :: d :: '-' :: rest =>
    if a.isDigit ∧ b.isDigit ∧ c.isDigit ∧ d.isDigit then do
      let year := decimalValue [a, b, c, d]
      let (month, rest) ← twoDigits? 12 rest
      match rest with
      | '-' :: rest => do
        let (day, rest) ← twoDigits? (daysIn year month) rest
        if month = 0 ∨ day = 0 then none else return ((), rest)
      | _ => none
    else none
  | _ => none

/-- The text without a fraction of a second at its start. -/
def skipFraction : List Char → List Char
  | '.' :: c :: rest => if c.isDigit then rest.dropWhile Char.isDigit else '.' :: c :: rest
  | text => text

/-- A time of day; a minute may have a leap second. -/
def time? (text : List Char) : Option (List Char) := do
  let (_, text) ← twoDigits? 23 text
  match text with
  | ':' :: text => do
    let (_, text) ← twoDigits? 59 text
    match text with
    | ':' :: text => do
      let (_, text) ← twoDigits? 60 text
      return skipFraction text
    | _ => none
  | _ => none

/-- The text without a distance from universal time at its start. -/
def skipOffset : List Char → List Char
  | c :: rest =>
    if c = 'Z' ∨ c = 'z' then rest
    else if c = '+' ∨ c = '-' then
      let after : Option (List Char) := do
        let (_, text) ← twoDigits? 23 rest
        match text with
        | ':' :: text => do
          let (_, text) ← twoDigits? 59 text
          return text
        | _ => none
      after.getD (c :: rest)
    else c :: rest
  | [] => []

/-- The text without a time of day, and what goes with it, after a date. -/
def skipTime : List Char → List Char
  | c :: rest =>
    if c = 'T' ∨ c = 't' ∨ c = ' ' then
      match time? rest with
      | some text => skipOffset text
      | none => c :: rest
    else c :: rest
  | [] => []

/-- What a date or time counts as. -/
def dateTree : Tree := .map [] none

/-- A date, a time, or both. -/
def dateTime? (text : List Char) : Option (Tree × List Char) :=
  match date? text with
  | some ((), rest) => some (dateTree, skipTime rest)
  | none => (time? text).map fun rest => (dateTree, rest)

/-- A value that starts with a sign or a digit. -/
def number? (text : List Char) : Option (Tree × List Char) :=
  dateTime? text <|> float? text <|> special? text <|> integer? text

end ContainerCert.Toml
