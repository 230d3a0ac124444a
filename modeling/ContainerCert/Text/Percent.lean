import ContainerCert.Text.Hex

/-!
# Bytes behind percent signs

A byte of a text can be written as a percent sign and two hexadecimal digits. A percent sign that
no two digits follow stands for itself.
-/

namespace ContainerCert.Text.Percent

/-- A byte as a percent sign and two digits in upper case. -/
def ofByte (byte : UInt8) : List Char :=
  let digit (n : Nat) : Char := (Hex.digit n).toUpper
  ['%', digit (byte.toNat / 16), digit (byte.toNat % 16)]

/-- The bytes of a text, those behind percent signs put in. -/
def decode : List Char → List UInt8
  | '%' :: a :: b :: rest =>
    match Hex.value? a, Hex.value? b with
    | some a, some b => UInt8.ofNat (16 * a + b) :: decode rest
    | _, _ => '%'.toUInt8 :: decode (a :: b :: rest)
  | c :: rest => (String.singleton c).toUTF8.toList ++ decode rest
  | [] => []

/-- The text whose bytes are given, if they are a text. -/
def decodeText? (text : List Char) : Option (List Char) :=
  (String.fromUTF8? ⟨(decode text).toArray⟩).map String.toList

end ContainerCert.Text.Percent
