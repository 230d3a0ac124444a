import ContainerCert.Text.Base64

/-!
# Reading base64

The written form of a row of bytes is read back as just these bytes: four characters at a time give
three bytes, and equals signs at the end say how many of the last three are missing. The bits that
fill up the last character are zero.
-/

namespace ContainerCert.Text.Base64

/-- The six-bit value of a character. -/
def value? (c : Char) : Option Nat :=
  alphabet.findIdx? (· == c)

/-- The sign that fills up the last group. -/
def filler : Char := '='

/-- The bytes of a last group of two characters. -/
def oneByte? (x y : Nat) : Option (List UInt8) :=
  if y % 16 = 0 then some [.ofNat ((x * 64 + y) / 16)] else none

/-- The bytes of a last group of three characters. -/
def twoBytes? (x y z : Nat) : Option (List UInt8) :=
  let n := (x * 64 + y) * 64 + z
  if z % 4 = 0 then some [.ofNat (n / 1024), .ofNat (n / 4 % 256)] else none

/-- The bytes of a group of four characters. -/
def threeBytes (x y z w : Nat) : List UInt8 :=
  let n := ((x * 64 + y) * 64 + z) * 64 + w
  [.ofNat (n / 65536), .ofNat (n / 256 % 256), .ofNat (n % 256)]

/-- The bytes that a text is the written form of. -/
def decode? : List Char → Option (List UInt8)
  | [] => some []
  | a :: b :: c :: d :: rest => do
    let x ← value? a
    let y ← value? b
    if c = filler ∧ d = filler ∧ rest = [] then oneByte? x y
    else
      let z ← value? c
      if d = filler ∧ rest = [] then twoBytes? x y z
      else return threeBytes x y z (← value? d) ++ (← decode? rest)
  | _ => none

theorem value?_digit {n : Nat} (h : n < 64) : value? (digit n) = some n := by
  have hall : ∀ n < 64, value? (digit n) = some n := by decide +kernel
  exact hall n h

theorem digit_ne_filler {n : Nat} (h : n < 64) : digit n ≠ filler := by
  have hall : ∀ n < 64, digit n ≠ filler := by decide +kernel
  exact hall n h

/-- A group of one byte is read back. -/
theorem oneByte?_eq (a : UInt8) :
    oneByte? (a.toNat * 16 / 64) (a.toNat * 16 % 64) = some [a] := by
  have hbits : a.toNat * 16 % 64 % 16 = 0 := by omega
  have hvalue : (a.toNat * 16 / 64 * 64 + a.toNat * 16 % 64) / 16 = a.toNat := by omega
  rw [oneByte?, if_pos hbits, hvalue, UInt8.ofNat_toNat]

/-- A group of two bytes is read back. -/
theorem twoBytes?_eq (a b : UInt8) :
    let n := (a.toNat * 256 + b.toNat) * 4
    twoBytes? (n / 4096) (n / 64 % 64) (n % 64) = some [a, b] := by
  intro n
  have hb := b.toNat_lt
  have hbits : n % 64 % 4 = 0 := by omega
  have hn : (n / 4096 * 64 + n / 64 % 64) * 64 + n % 64 = n := by omega
  have hfirst : n / 1024 = a.toNat := by omega
  have hsecond : n / 4 % 256 = b.toNat := by omega
  simp only [twoBytes?, if_pos hbits, hn, hfirst, hsecond, UInt8.ofNat_toNat]

/-- A group of three bytes is read back. -/
theorem threeBytes_eq (a b c : UInt8) :
    let n := (a.toNat * 256 + b.toNat) * 256 + c.toNat
    threeBytes (n / 262144) (n / 4096 % 64) (n / 64 % 64) (n % 64) = [a, b, c] := by
  intro n
  have hb := b.toNat_lt
  have hc := c.toNat_lt
  have hn : ((n / 262144 * 64 + n / 4096 % 64) * 64 + n / 64 % 64) * 64 + n % 64 = n := by omega
  have hfirst : n / 65536 = a.toNat := by omega
  have hsecond : n / 256 % 256 = b.toNat := by omega
  have hthird : n % 256 = c.toNat := by omega
  simp only [threeBytes, hn, hfirst, hsecond, hthird, UInt8.ofNat_toNat]

/-- What was written is read back. -/
theorem decode?_encode (bytes : List UInt8) : decode? (encode bytes) = some bytes := by
  induction bytes using encode.induct with
  | case1 => rfl
  | case2 a =>
    have ha := a.toNat_lt
    simp only [encode, decode?]
    rw [value?_digit (by omega), value?_digit (by omega)]
    exact oneByte?_eq a
  | case3 a b =>
    have ha := a.toNat_lt
    have hb := b.toNat_lt
    have hthird := digit_ne_filler (Nat.mod_lt ((a.toNat * 256 + b.toNat) * 4) (by decide : 0 < 64))
    simp only [encode, decode?]
    rw [value?_digit (by omega), value?_digit (by omega), value?_digit (by omega)]
    simp only [Option.bind_eq_bind, Option.bind_some, hthird, false_and, if_false]
    exact twoBytes?_eq a b
  | case4 a b c rest ih =>
    have ha := a.toNat_lt
    have hb := b.toNat_lt
    have hc := c.toNat_lt
    have hthird := digit_ne_filler
      (Nat.mod_lt (((a.toNat * 256 + b.toNat) * 256 + c.toNat) / 64) (by decide : 0 < 64))
    have hfourth := digit_ne_filler
      (Nat.mod_lt ((a.toNat * 256 + b.toNat) * 256 + c.toNat) (by decide : 0 < 64))
    simp only [encode, decode?]
    rw [value?_digit (by omega), value?_digit (by omega), value?_digit (by omega),
      value?_digit (by omega), ih]
    simp only [Option.bind_eq_bind, Option.bind_some, hthird, hfourth, false_and, if_false]
    exact congrArg (fun group => some (group ++ rest)) (threeBytes_eq a b c)

end ContainerCert.Text.Base64
