/-!
# Base64

Three bytes are written as four characters of an alphabet of sixty-four; a last group of one or
two bytes is filled up with equals signs.
-/

namespace ContainerCert.Text.Base64

/-- The alphabet, in the order of the six-bit values. -/
def alphabet : List Char :=
  "ABCDEFGHIJKLMNOPQRSTUVWXYZabcdefghijklmnopqrstuvwxyz0123456789+/".toList

/-- The character for a six-bit value. -/
def digit (n : Nat) : Char :=
  alphabet.getD n '='

/-- The written form of a row of bytes. -/
def encode : List UInt8 → List Char
  | [] => []
  | [a] =>
    let n := a.toNat * 16
    [digit (n / 64), digit (n % 64), '=', '=']
  | [a, b] =>
    let n := (a.toNat * 256 + b.toNat) * 4
    [digit (n / 4096), digit (n / 64 % 64), digit (n % 64), '=']
  | a :: b :: c :: rest =>
    let n := (a.toNat * 256 + b.toNat) * 256 + c.toNat
    digit (n / 262144) :: digit (n / 4096 % 64) :: digit (n / 64 % 64) :: digit (n % 64) ::
      encode rest

end ContainerCert.Text.Base64
