/-!
# Cutting a text at a mark

A text is cut at the first or at the last occurrence of a mark, or at every occurrence. What a
cut returns no longer holds the mark it was cut at; joining the parts with the mark gives the
text back.
-/

namespace ContainerCert.Text

/-- What stands before and after the first occurrence of the mark. -/
def cutFirst? (mark : Char) : List Char → Option (List Char × List Char)
  | [] => none
  | c :: rest =>
    if c = mark then some ([], rest)
    else (cutFirst? mark rest).map fun (before, after) => (c :: before, after)

/-- What stands before and after the last occurrence of the mark. -/
def cutLast? (mark : Char) : List Char → Option (List Char × List Char)
  | [] => none
  | c :: rest =>
    match cutLast? mark rest with
    | some (before, after) => some (c :: before, after)
    | none => if c = mark then some ([], rest) else none

/-- The parts between the occurrences of the mark, one more than there are occurrences. -/
def splitAt (mark : Char) : List Char → List (List Char)
  | [] => [[]]
  | c :: rest =>
    if c = mark then [] :: splitAt mark rest
    else match splitAt mark rest with
      | part :: parts => (c :: part) :: parts
      | [] => [[c]]

/-- The parts with the mark between each two of them. -/
def joinWith (mark : Char) : List (List Char) → List Char
  | [] => []
  | [part] => part
  | part :: parts => part ++ mark :: joinWith mark parts

/-- Whether the piece stands somewhere in the text. -/
def holds (piece : List Char) : List Char → Bool
  | [] => piece.isEmpty
  | c :: rest => piece.isPrefixOf (c :: rest) || holds piece rest

theorem splitAt_ne_nil (mark : Char) (text : List Char) : splitAt mark text ≠ [] := by
  cases text with
  | nil => simp [splitAt]
  | cons c rest =>
    simp only [splitAt]
    split
    · simp
    · split <;> simp

/-- Joining what a split gives is the text again. -/
theorem joinWith_splitAt (mark : Char) (text : List Char) :
    joinWith mark (splitAt mark text) = text := by
  induction text with
  | nil => rfl
  | cons c rest ih =>
    simp only [splitAt]
    split
    · next h =>
      subst h
      cases hs : splitAt c rest with
      | nil => exact absurd hs (splitAt_ne_nil c rest)
      | cons part parts => rw [hs] at ih; simp [joinWith, ih]
    · cases hs : splitAt mark rest with
      | nil => exact absurd hs (splitAt_ne_nil mark rest)
      | cons part parts =>
        rw [hs] at ih
        cases parts with
        | nil => simpa [joinWith] using ih
        | cons p ps => simpa [joinWith] using ih

/-- No part of a split text holds the mark. -/
theorem not_mem_of_mem_splitAt {mark : Char} {text part : List Char}
    (h : part ∈ splitAt mark text) : mark ∉ part := by
  induction text generalizing part with
  | nil =>
    simp only [splitAt, List.mem_singleton] at h
    simp [h]
  | cons c rest ih =>
    rw [splitAt] at h
    by_cases hc : c = mark
    · rw [if_pos hc] at h
      rcases List.mem_cons.mp h with rfl | hrest
      · simp
      · exact ih hrest
    · rw [if_neg hc] at h
      cases hs : splitAt mark rest with
      | nil => exact absurd hs (splitAt_ne_nil mark rest)
      | cons first parts =>
        rw [hs] at h ih
        rcases List.mem_cons.mp h with rfl | hparts
        · simp [Ne.symm hc, ih List.mem_cons_self]
        · exact ih (List.mem_cons_of_mem _ hparts)

/-- A text is split at a mark into what the parts around the mark are split into. -/
theorem splitAt_append (mark : Char) (before after : List Char) :
    splitAt mark (before ++ mark :: after) = splitAt mark before ++ splitAt mark after := by
  induction before with
  | nil => simp [splitAt]
  | cons c before ih =>
    rw [List.cons_append, splitAt, splitAt, ih]
    split
    · rfl
    · cases hparts : splitAt mark before with
      | nil => exact absurd hparts (splitAt_ne_nil mark before)
      | cons part parts => rfl

theorem splitAt_of_not_mem {mark : Char} {text : List Char} (h : mark ∉ text) :
    splitAt mark text = [text] := by
  induction text with
  | nil => rfl
  | cons c text ih =>
    rw [List.mem_cons, not_or] at h
    rw [splitAt, if_neg (Ne.symm h.1), ih h.2]

/-- A text is split into one part more than it holds the mark. -/
theorem length_splitAt (mark : Char) (text : List Char) :
    (splitAt mark text).length = text.count mark + 1 := by
  induction text with
  | nil => rfl
  | cons c rest ih =>
    rw [splitAt]
    by_cases hc : c = mark
    · subst hc
      rw [if_pos rfl, List.length_cons, ih, List.count_cons_self]
    · rw [if_neg hc, List.count_cons_of_ne hc]
      cases hs : splitAt mark rest with
      | nil => exact absurd hs (splitAt_ne_nil mark rest)
      | cons part parts => rw [hs] at ih; exact ih

theorem joinWith_cons (mark : Char) (part : List Char) {parts : List (List Char)}
    (hne : parts ≠ []) : joinWith mark (part :: parts) = part ++ mark :: joinWith mark parts := by
  cases parts with
  | nil => exact absurd rfl hne
  | cons next parts => rw [joinWith]; simp

/-- Parts that are joined are those in front, the mark, and those behind. -/
theorem joinWith_append (mark : Char) {front back : List (List Char)} (hfront : front ≠ [])
    (hback : back ≠ []) :
    joinWith mark (front ++ back) = joinWith mark front ++ mark :: joinWith mark back := by
  induction front with
  | nil => exact absurd rfl hfront
  | cons part front ih =>
    by_cases hlast : front = []
    · subst hlast
      exact joinWith_cons mark part hback
    · rw [List.cons_append, joinWith_cons mark part (by simp [hlast]), ih hlast,
        joinWith_cons mark part hlast, List.append_assoc]
      rfl

/-- Splitting parts that were joined gives the parts again. -/
theorem splitAt_joinWith {mark : Char} {parts : List (List Char)} (hne : parts ≠ [])
    (h : ∀ part ∈ parts, mark ∉ part) : splitAt mark (joinWith mark parts) = parts := by
  induction parts with
  | nil => exact absurd rfl hne
  | cons part parts ih =>
    have hpart := splitAt_of_not_mem (h part List.mem_cons_self)
    by_cases hlast : parts = []
    · subst hlast
      exact hpart
    · have hrest := ih hlast fun other hmem => h other (List.mem_cons_of_mem part hmem)
      rw [joinWith_cons mark part hlast, splitAt_append, hrest]
      exact congrArg (· ++ parts) hpart

theorem holds_iff {piece text : List Char} : holds piece text = true ↔ piece <:+: text := by
  induction text with
  | nil => rw [holds, List.isEmpty_iff, List.infix_nil]
  | cons c rest ih =>
    rw [holds, Bool.or_eq_true, List.isPrefixOf_iff_prefix, ih, List.infix_cons_iff]

/-- A first cut puts the mark between two parts, and the part before does not hold it. -/
theorem cutFirst?_eq_some {mark : Char} {text before after : List Char}
    (h : cutFirst? mark text = some (before, after)) :
    text = before ++ mark :: after ∧ mark ∉ before := by
  induction text generalizing before with
  | nil => simp [cutFirst?] at h
  | cons c rest ih =>
    simp only [cutFirst?] at h
    split at h
    · next hc => simp_all
    · next hc =>
      obtain ⟨⟨b, a⟩, hb, heq⟩ := Option.map_eq_some_iff.mp h
      simp only [Prod.mk.injEq] at heq
      obtain ⟨rfl, rfl⟩ := heq
      obtain ⟨rfl, hm⟩ := ih hb
      exact ⟨rfl, by simp [hm, Ne.symm hc]⟩

/-- There is nothing to cut exactly where the mark does not occur. -/
theorem cutFirst?_eq_none_iff {mark : Char} {text : List Char} :
    cutFirst? mark text = none ↔ mark ∉ text := by
  induction text with
  | nil => simp [cutFirst?]
  | cons c rest ih =>
    simp only [cutFirst?]
    split
    · next hc => simp [hc]
    · next hc => simp [ih, Ne.symm hc]

/-- A text is cut at a mark before which there is none. -/
theorem cutFirst?_append {mark : Char} {before : List Char} (h : mark ∉ before)
    (after : List Char) : cutFirst? mark (before ++ mark :: after) = some (before, after) := by
  induction before with
  | nil => simp [cutFirst?]
  | cons c before ih =>
    rw [List.mem_cons, not_or] at h
    rw [List.cons_append, cutFirst?, if_neg (Ne.symm h.1), ih h.2]
    rfl

/-- There is no last cut exactly where the mark does not occur. -/
theorem cutLast?_eq_none_iff {mark : Char} {text : List Char} :
    cutLast? mark text = none ↔ mark ∉ text := by
  induction text with
  | nil => simp [cutLast?]
  | cons c rest ih =>
    rw [cutLast?, List.mem_cons, not_or, ← ih]
    cases cutLast? mark rest with
    | none => by_cases hc : mark = c <;> simp [hc, eq_comm]
    | some parts => simp

/-- A last cut puts the mark between two parts, and the part after does not hold it. -/
theorem cutLast?_eq_some {mark : Char} {text before after : List Char}
    (h : cutLast? mark text = some (before, after)) :
    text = before ++ mark :: after ∧ mark ∉ after := by
  induction text generalizing before with
  | nil => simp [cutLast?] at h
  | cons c rest ih =>
    rw [cutLast?] at h
    cases hrest : cutLast? mark rest with
    | none =>
      rw [hrest] at h
      by_cases hc : c = mark
      · simp only [hc, if_true, Option.some.injEq, Prod.mk.injEq] at h
        obtain ⟨rfl, rfl⟩ := h
        exact ⟨congrArg (· :: rest) hc, cutLast?_eq_none_iff.mp hrest⟩
      · simp [hc] at h
    | some parts =>
      rw [hrest] at h
      simp only [Option.some.injEq, Prod.mk.injEq] at h
      obtain ⟨rfl, hafter⟩ := h
      obtain ⟨rfl, hmark⟩ := ih (hrest.trans (congrArg some (Prod.ext rfl hafter)))
      exact ⟨rfl, hmark⟩

/-- A text is cut at a mark after which there is none. -/
theorem cutLast?_append {mark : Char} {after : List Char} (before : List Char)
    (h : mark ∉ after) : cutLast? mark (before ++ mark :: after) = some (before, after) := by
  induction before with
  | nil => rw [List.nil_append, cutLast?, cutLast?_eq_none_iff.mpr h]; simp
  | cons c before ih => rw [List.cons_append, cutLast?, ih]

end ContainerCert.Text
