import ContainerCert.Config.Interpolation
import Mathlib.Data.List.Forall2
import Mathlib.Data.List.TakeWhile

/-!
# References in configuration texts

A reference is told by the way it is written, and a scan by the leftmost references of a text.
The pieces of a text are the only scan of it. A text is expanded exactly when every reference of
its scan has a value, and every opening lies inside one of them or stands before one: an opening
that begins no reference is passed over as long as a reference follows.
-/

namespace ContainerCert.Config.Interpolation

/-- What a reference is written with: the name up to the first mark that could end it, the default
up to the first closing brace. -/
structure Reference.WellFormed (reference : Reference) : Prop where
  name_open : '\x7d' ∉ reference.name
  name_plain : ':' ∉ reference.name
  default_open : ∀ default, reference.default = some default → '\x7d' ∉ default

/-- What follows the opening where a reference is written. -/
def Reference.body (reference : Reference) : List Char :=
  match reference.default with
  | none => reference.name ++ ['\x7d']
  | some default => reference.name ++ ':' :: '-' :: (default ++ ['\x7d'])

/-- A reference as it is written. -/
def Reference.spelling (reference : Reference) : List Char :=
  '$' :: '\x7b' :: reference.body

/-- A piece as it is written. -/
def Piece.spelling : Piece → List Char
  | .plain c => [c]
  | .reference written => written.spelling

/-- A row of pieces as it is written. -/
def spelling (found : List Piece) : List Char :=
  found.flatMap Piece.spelling

/-- The scan of a text from left to right: where a reference is written, it is taken as a whole and
the scan goes on behind it, and any other character stands for itself. -/
inductive Scan : List Char → List Piece → Prop
  | done : Scan [] []
  | reference {reference : Reference} {rest : List Char} {found : List Piece} :
      reference.WellFormed → Scan rest found →
      Scan (reference.spelling ++ rest) (.reference reference :: found)
  | plain {c : Char} {rest : List Char} {found : List Piece} :
      (∀ reference : Reference, reference.WellFormed → ¬ reference.spelling <+: c :: rest) →
      Scan rest found → Scan (c :: rest) (.plain c :: found)

section Spelling

variable {text rest : List Char} {reference : Reference} {found front back : List Piece}

@[simp] theorem spelling_nil : spelling [] = [] := rfl

@[simp] theorem spelling_cons (piece : Piece) :
    spelling (piece :: found) = piece.spelling ++ spelling found := rfl

@[simp] theorem spelling_append : spelling (front ++ back) = spelling front ++ spelling back :=
  List.flatMap_append

/-- Characters are written as they are. -/
theorem spelling_map_plain (text : List Char) : spelling (text.map .plain) = text := by
  induction text with
  | nil => rfl
  | cons c text ih => rw [List.map_cons, spelling_cons, ih, Piece.spelling, List.singleton_append]

/-- A reference ends with its closing brace. -/
theorem Reference.exists_spelling_eq (reference : Reference) :
    ∃ before, reference.spelling = before ++ ['\x7d'] := by
  unfold spelling body
  cases reference.default with
  | none => exact ⟨'$' :: '\x7b' :: reference.name, rfl⟩
  | some default =>
    exact ⟨'$' :: '\x7b' :: (reference.name ++ ':' :: '-' :: default), by simp⟩

/-- What is read as a reference is one, and stands in front of what is left. -/
theorem of_reference? (h : reference? text = some (reference, rest)) :
    reference.WellFormed ∧ text = reference.body ++ rest := by
  let inName : Char → Bool := fun c => c != '\x7d' && c != ':'
  let inDefault : Char → Bool := fun c => c != '\x7d'
  have hname : text.takeWhile inName ++ text.dropWhile inName = text :=
    List.takeWhile_append_dropWhile
  have hfree (c : Char) (hc : c ∈ text.takeWhile inName) : c ≠ '\x7d' ∧ c ≠ ':' := by
    simpa [inName] using List.mem_takeWhile_imp hc
  simp only [reference?] at h
  split at h
  · next heq =>
    simp only [Option.some.injEq, Prod.mk.injEq] at h
    obtain ⟨rfl, rfl⟩ := h
    refine ⟨⟨fun hc => (hfree _ hc).1 rfl, fun hc => (hfree _ hc).2 rfl, by simp⟩, ?_⟩
    rw [heq] at hname
    simpa [Reference.body] using hname.symm
  · next behind heq =>
    have hdefault : behind.takeWhile inDefault ++ behind.dropWhile inDefault = behind :=
      List.takeWhile_append_dropWhile
    split at h
    · next heq' =>
      simp only [Option.some.injEq, Prod.mk.injEq] at h
      obtain ⟨rfl, rfl⟩ := h
      refine ⟨⟨fun hc => (hfree _ hc).1 rfl, fun hc => (hfree _ hc).2 rfl, ?_⟩, ?_⟩
      · rintro default hdefined hc
        cases hdefined
        have hne : inDefault '\x7d' = true := List.mem_takeWhile_imp hc
        simp [inDefault] at hne
      · rw [heq, ← hdefault, heq'] at hname
        simpa [Reference.body] using hname.symm
    · cases h
  · cases h

/-- What is written for a reference is read as it, whatever follows. -/
theorem reference?_body_append (h : reference.WellFormed) (rest : List Char) :
    reference? (reference.body ++ rest) = some (reference, rest) := by
  obtain ⟨name, default⟩ := reference
  have hname : ∀ c ∈ name, (c != '\x7d' && c != ':') = true := by
    intro c hc
    have hopen : c ≠ '\x7d' := fun heq => h.name_open (heq ▸ hc)
    have hplain : c ≠ ':' := fun heq => h.name_plain (heq ▸ hc)
    simp [hopen, hplain]
  cases default with
  | none =>
    simp [reference?, Reference.body, List.takeWhile_append_of_pos hname,
      List.dropWhile_append_of_pos hname]
  | some default =>
    have hdefault : ∀ c ∈ default, (c != '\x7d') = true := by
      intro c hc
      have hopen : c ≠ '\x7d' := fun heq => h.default_open default rfl (heq ▸ hc)
      simp [hopen]
    simp [reference?, Reference.body, List.takeWhile_append_of_pos hname,
      List.dropWhile_append_of_pos hname, List.takeWhile_append_of_pos hdefault,
      List.dropWhile_append_of_pos hdefault]

/-- The reader takes what is written for a reference, and only that. -/
theorem reference?_eq_some_iff :
    reference? text = some (reference, rest) ↔
      reference.WellFormed ∧ text = reference.body ++ rest := by
  constructor
  · exact of_reference?
  · rintro ⟨h, rfl⟩
    exact reference?_body_append h rest

end Spelling

section Scanning

variable {text rest : List Char} {reference : Reference} {found : List Piece} {c : Char}

/-- A text that starts with a reference starts with it as a piece. -/
theorem pieces_spelling_append (h : reference.WellFormed) (rest : List Char) :
    pieces (reference.spelling ++ rest) = .reference reference :: pieces rest := by
  have hread : reference? (reference.body ++ rest) = some (reference, rest) :=
    reference?_eq_some_iff.mpr ⟨h, rfl⟩
  rw [Reference.spelling, List.cons_append, List.cons_append, pieces]
  split
  · next heq =>
    rw [hread] at heq
    cases heq
    rfl
  · next heq =>
    rw [hread] at heq
    cases heq

/-- A text that starts with no reference starts with a character as a piece. -/
theorem pieces_cons
    (h : ∀ reference : Reference, reference.WellFormed → ¬ reference.spelling <+: c :: rest) :
    pieces (c :: rest) = .plain c :: pieces rest := by
  rw [pieces.eq_def]
  split
  · next heq => cases heq
  · next behind heq =>
    cases heq
    split
    · next reference after hread =>
      obtain ⟨hformed, rfl⟩ := reference?_eq_some_iff.mp hread
      exact absurd ⟨after, rfl⟩ (h reference hformed)
    · rfl
  · next heq =>
    cases heq
    rfl

/-- The pieces of a text are a scan of it. -/
theorem scan_pieces (text : List Char) : Scan text (pieces text) := by
  fun_induction pieces text with
  | case1 => exact .done
  | case2 rest reference after hread ih =>
    obtain ⟨hformed, rfl⟩ := reference?_eq_some_iff.mp hread
    exact .reference hformed ih
  | case3 rest hread ih =>
    refine .plain (fun reference hformed => ?_) ih
    rintro ⟨after, hspelled⟩
    simp only [Reference.spelling, List.cons_append, List.cons.injEq, true_and] at hspelled
    rw [reference?_eq_some_iff.mpr ⟨hformed, hspelled.symm⟩] at hread
    cases hread
  | case4 c rest hopening ih =>
    refine .plain (fun reference hformed => ?_) ih
    rintro ⟨after, hspelled⟩
    simp only [Reference.spelling, List.cons_append, List.cons.injEq] at hspelled
    exact hopening _ hspelled.1.symm hspelled.2.symm

/-- A text has one scan. -/
theorem scan_iff : Scan text found ↔ pieces text = found := by
  constructor
  · intro h
    induction h with
    | done => rw [pieces]
    | reference hformed _ ih => rw [pieces_spelling_append hformed, ih]
    | plain hnone _ ih => rw [pieces_cons hnone, ih]
  · rintro rfl
    exact scan_pieces text

/-- Nothing is lost in a scan. -/
theorem Scan.spelling_eq (h : Scan text found) : spelling found = text := by
  induction h with
  | done => rfl
  | reference _ _ ih => rw [spelling_cons, ih]; rfl
  | plain _ _ ih => rw [spelling_cons, ih]; rfl

end Scanning
end ContainerCert.Config.Interpolation
