import ContainerCert.Json.Basic
import ContainerCert.Json.Document

/-!
# Reading strings and numbers back

Whatever a string holds, its quoted form is read back as the same characters: every character
becomes one piece, which stands for it. The decimal digits of a natural number are read back as a
numeral without a point and an exponent, as long as no further part of a number follows.
-/

namespace ContainerCert.Json

/-- Two digits of sixteen are read back as the number below 32 that they were made of. -/
theorem number?_digits :
    ∀ n < 0x20, Text.Hex.number? ['0', '0', Text.Hex.digit (n / 16), Text.Hex.digit (n % 16)] =
      some n := by
  decide

/-- Put a piece before those that were read. -/
def consPiece (piece : Piece) (read : List Piece × List Char) : List Piece × List Char :=
  (piece :: read.1, read.2)

theorem stringPieces?_plain {c : Char} (hcontrol : ¬ c.toNat < 0x20) (hquote : c ≠ '"')
    (hslash : c ≠ '\\') (rest : List Char) :
    stringPieces? (c :: rest) = (stringPieces? rest).map (consPiece (.plain c)) := by
  rw [stringPieces?, if_neg (not_or.mpr ⟨hcontrol, hslash⟩)]
  · cases stringPieces? rest <;> rfl
  · exact hquote
  · intro _ _ _ _ _ hc
    exact absurd hc hslash
  · intro _ _ hc
    exact absurd hc hslash

theorem stringPieces?_short {d c : Char} (hd : d ≠ 'u') (h : shortEscape? d = some c)
    (rest : List Char) :
    stringPieces? ('\\' :: d :: rest) = (stringPieces? rest).map (consPiece (.plain c)) := by
  rw [stringPieces?, h]
  · cases stringPieces? rest <;> rfl
  · intro a b c d rest hu
    exact absurd hu hd

theorem stringPieces?_unit {a b c d : Char} {n : Nat}
    (h : Text.Hex.number? [a, b, c, d] = some n) (rest : List Char) :
    stringPieces? ('\\' :: 'u' :: a :: b :: c :: d :: rest) =
      (stringPieces? rest).map (consPiece (.unit n)) := by
  rw [stringPieces?, h]
  cases stringPieces? rest <;> rfl

theorem charsOf?_unit {n : Nat} (h : n < 0xD800) (pieces : List Piece) :
    charsOf? (.unit n :: pieces) = (charsOf? pieces).map (Char.ofNat n :: ·) := by
  have hlast : isTrailing n = false := by
    rw [isTrailing, decide_eq_false (by omega), Bool.false_and]
  have hfirst : isLeading n = false := by
    rw [isLeading, decide_eq_false (by omega), Bool.false_and]
  rw [charsOf?.eq_def]
  simp only [hlast, hfirst, Bool.false_eq_true, if_false]

/-- Every character of a string becomes one piece. -/
theorem exists_piece (c : Char) :
    ∃ piece, (∀ rest, stringPieces? (escapeChar c ++ rest) =
        (stringPieces? rest).map (consPiece piece)) ∧
      ∀ pieces, charsOf? (piece :: pieces) = (charsOf? pieces).map (c :: ·) := by
  unfold escapeChar
  split
  · exact ⟨.plain '"', stringPieces?_short (by decide) rfl, fun _ => rfl⟩
  · exact ⟨.plain '\\', stringPieces?_short (by decide) rfl, fun _ => rfl⟩
  · exact ⟨.plain '\x08', stringPieces?_short (by decide) rfl, fun _ => rfl⟩
  · exact ⟨.plain '\x0c', stringPieces?_short (by decide) rfl, fun _ => rfl⟩
  · exact ⟨.plain '\n', stringPieces?_short (by decide) rfl, fun _ => rfl⟩
  · exact ⟨.plain '\r', stringPieces?_short (by decide) rfl, fun _ => rfl⟩
  · exact ⟨.plain '\t', stringPieces?_short (by decide) rfl, fun _ => rfl⟩
  · next hquote hslash _ _ _ _ _ =>
    split
    · next hcontrol =>
      refine ⟨.unit c.toNat, stringPieces?_unit (number?_digits c.toNat hcontrol), fun pieces => ?_⟩
      rw [charsOf?_unit (by omega), Char.ofNat_toNat]
    · next hcontrol =>
      exact ⟨.plain c, stringPieces?_plain hcontrol hquote hslash, fun _ => rfl⟩

/-- The characters of a string, quoted, are read back as pieces that stand for them. -/
theorem exists_pieces (chars rest : List Char) :
    ∃ pieces, stringPieces? (chars.flatMap escapeChar ++ '"' :: rest) = some (pieces, rest) ∧
      charsOf? pieces = some chars := by
  induction chars with
  | nil => exact ⟨[], rfl, rfl⟩
  | cons c chars ih =>
    obtain ⟨pieces, hpieces, hchars⟩ := ih
    obtain ⟨piece, hread, hmeans⟩ := exists_piece c
    refine ⟨piece :: pieces, ?_, ?_⟩
    · rw [List.flatMap_cons, List.append_assoc, hread, hpieces]
      rfl
    · rw [hmeans, hchars]
      rfl

/-- A string is read back from its quoted form. -/
theorem exists_pieces_string (value : String) (rest : List Char) :
    ∃ body pieces, string value ++ rest = '"' :: body ∧
      stringPieces? body = some (pieces, rest) ∧ textOf? pieces = some value := by
  obtain ⟨pieces, hpieces, hchars⟩ := exists_pieces value.toList rest
  refine ⟨value.toList.flatMap escapeChar ++ '"' :: rest, pieces, ?_, hpieces, ?_⟩
  · simp [string]
  · rw [textOf?, hchars, Option.map_some, String.ofList_toList]

/-- What follows a number: nothing that could be a further part of it. -/
def EndsNumber (rest : List Char) : Prop :=
  ∀ c ∈ rest.head?, c.isDigit = false ∧ c ≠ '.' ∧ c ≠ 'e' ∧ c ≠ 'E'

theorem digitChar_ne_zero : ∀ n < 10, n.digitChar = '0' → n = 0 := by
  decide

/-- Only zero is written with a zero in front. -/
theorem eq_zero_of_head?_digits {n : Nat} (h : (digits n).head? = some '0') : n = 0 := by
  induction n using Nat.strongRecOn with
  | ind n ih =>
    unfold digits at *
    by_cases hsmall : n < 10
    · rw [Nat.toDigits_of_lt_base hsmall, List.head?_cons, Option.some.injEq] at h
      exact digitChar_ne_zero n hsmall h
    · have hzero : n / 10 = 0 := by
        refine ih (n / 10) (by omega) ?_
        rw [Nat.toDigits_of_base_le (by omega) (by omega), List.head?_append] at h
        obtain ⟨first, row, hrow⟩ := List.exists_cons_of_ne_nil (@Nat.toDigits_ne_nil (n / 10) 10)
        rw [hrow] at h ⊢
        exact h
      omega

theorem isDigit_of_mem_digits {n : Nat} {c : Char} (h : c ∈ digits n) : c.isDigit = true :=
  Nat.isDigit_of_mem_toDigits (by omega) (by omega) h

/-- The digits of a number are the whole row that stands there. -/
theorem Numeral.digits_append (n : Nat) {rest : List Char} (hrest : EndsNumber rest) :
    Numeral.digits (Json.digits n ++ rest) = (Json.digits n, rest) := by
  have hall : ∀ c ∈ Json.digits n, c.isDigit = true := fun c hc => isDigit_of_mem_digits hc
  have hstop : rest.takeWhile Char.isDigit = [] ∧ rest.dropWhile Char.isDigit = rest := by
    cases rest with
    | nil => exact ⟨rfl, rfl⟩
    | cons c rest => simp [(hrest c rfl).1]
  rw [Numeral.digits, List.takeWhile_append_of_pos hall, List.dropWhile_append_of_pos hall, hstop.1,
    hstop.2, List.append_nil]

theorem Numeral.whole?_digits (n : Nat) {rest : List Char} (hrest : EndsNumber rest) :
    Numeral.whole? (Json.digits n ++ rest) = some (Json.digits n, rest) := by
  rw [Numeral.whole?, Numeral.digits_append n hrest]
  split
  · next hrow => exact absurd (Prod.ext_iff.mp hrow).1 Nat.toDigits_ne_nil
  · next hread =>
    have hrow : Json.digits n = _ := congrArg Prod.fst hread
    obtain rfl : n = 0 := eq_zero_of_head?_digits (by rw [hrow]; rfl)
    exact absurd (congrArg List.length hrow) (by simp [Json.digits])
  · next hread => rw [← hread]

theorem Numeral.fraction?_of_endsNumber {rest : List Char} (hrest : EndsNumber rest) :
    Numeral.fraction? rest = some (none, rest) := by
  rw [Numeral.fraction?]
  rintro chars rfl
  exact (hrest '.' rfl).2.1 rfl

theorem Numeral.exponent?_of_endsNumber {rest : List Char} (hrest : EndsNumber rest) :
    Numeral.exponent? rest = some (none, rest) := by
  cases rest with
  | nil => rfl
  | cons c rest =>
    obtain ⟨-, -, hlower, hupper⟩ := hrest c rfl
    rw [Numeral.exponent?, if_neg (not_or.mpr ⟨hlower, hupper⟩)]

/-- A number is read back from its digits. -/
theorem Numeral.read?_digits (n : Nat) {rest : List Char} (hrest : EndsNumber rest) :
    Numeral.read? (Json.digits n ++ rest) = some (⟨false, Json.digits n, none, none⟩, rest) := by
  rw [Numeral.read?]
  · simp only [Numeral.unsigned?, Numeral.whole?_digits n hrest, Option.bind_eq_bind,
      Option.bind_some, Numeral.fraction?_of_endsNumber hrest,
      Numeral.exponent?_of_endsNumber hrest]
    rfl
  · intro chars hsign
    obtain ⟨first, row, hrow⟩ := List.exists_cons_of_ne_nil (@Nat.toDigits_ne_nil n 10)
    have hdigit : first ∈ Json.digits n := by
      rw [Json.digits, hrow]
      exact List.mem_cons_self
    rw [Json.digits, hrow, List.cons_append, List.cons.injEq] at hsign
    rw [hsign.1] at hdigit
    exact absurd (isDigit_of_mem_digits hdigit) (by decide)

/-- The digits of a number say the number. -/
theorem Numeral.tree_digits {n : Nat} (h : n < UInt64.size) :
    Numeral.tree ⟨false, Json.digits n, none, none⟩ = .natural n := by
  have hvalue : Numeral.valueOf (Json.digits n) = n := Nat.ofDigitChars_ten_toDigits
  simp only [Numeral.tree, hvalue, Bool.false_eq_true, if_false, h, if_true]

end ContainerCert.Json
