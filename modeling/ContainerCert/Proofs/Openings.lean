import ContainerCert.Proofs.Actions
import ContainerCert.Proofs.VariableReferences
import Mathlib.Data.List.Induction

/-!
# Openings in expanded texts

A text is expanded exactly when every reference of its scan has a value and what follows the last
of them opens none. So every opening of an expanded text lies inside a reference that was replaced,
or it begins no reference and is kept as it is because one follows.
-/

namespace ContainerCert.Config.Interpolation

open ContainerCert.Action (step_bind_eq_ok)

/-- What a piece gives to the expanded text: a character itself, a reference its value. -/
def Piece.Gives (lookup : String → Option String) : Piece → List Char → Prop
  | .plain c, given => given = [c]
  | .reference written, given => resolve lookup written = .ok given

/-- An opening of the text, told by what is before it, lies inside a reference of the scan. -/
def LiesInside (found : List Piece) (before : List Char) : Prop :=
  ∃ front reference back inside rest, found = front ++ .reference reference :: back ∧
    before = spelling front ++ inside ∧ reference.spelling = inside ++ '$' :: '\x7b' :: rest

/-- A reference of the scan starts later than a place of the text, told by what is before it. -/
def IsFollowed (found : List Piece) (before : List Char) : Prop :=
  ∃ front reference back, found = front ++ .reference reference :: back ∧
    before.length < (spelling front).length

variable {lookup : String → Option String} {found front back : List Piece} {reference : Reference}
  {text before after chars : List Char}

/-- A row of pieces is expanded exactly when each has a value. -/
theorem expandPieces_eq_ok_iff {expanded : List Char} :
    expandPieces lookup found = .ok expanded ↔
      ∃ values, List.Forall₂ (Piece.Gives lookup) found values ∧ expanded = values.flatten := by
  induction found generalizing expanded with
  | nil =>
    simp only [expandPieces, List.forall₂_nil_left_iff, exists_eq_left, List.flatten_nil,
      Except.ok.injEq]
    exact eq_comm
  | cons piece found ih =>
    cases piece with
    | plain c =>
      simp only [expandPieces, step_bind_eq_ok, ih, List.forall₂_cons_left_iff]
      constructor
      · rintro ⟨_, ⟨values, hvalues, rfl⟩, hreturn⟩
        cases hreturn
        exact ⟨[c] :: values, ⟨[c], values, rfl, hvalues, rfl⟩, rfl⟩
      · rintro ⟨_, ⟨_, values, rfl, hvalues, rfl⟩, rfl⟩
        exact ⟨values.flatten, ⟨values, hvalues, rfl⟩, rfl⟩
    | reference written =>
      simp only [expandPieces, step_bind_eq_ok, ih, List.forall₂_cons_left_iff]
      constructor
      · rintro ⟨value, hvalue, _, ⟨values, hvalues, rfl⟩, hreturn⟩
        cases hreturn
        exact ⟨value :: values, ⟨value, values, hvalue, hvalues, rfl⟩, rfl⟩
      · rintro ⟨_, ⟨value, values, hvalue, hvalues, rfl⟩, rfl⟩
        exact ⟨value, hvalue, values.flatten, ⟨values, hvalues, rfl⟩, rfl⟩

/-- There is an opening to cut at exactly where one stands. -/
theorem cutOpening?_eq_none_iff :
    cutOpening? text = none ↔ ∀ before after, text ≠ before ++ '$' :: '\x7b' :: after := by
  fun_induction cutOpening? text with
  | case1 => simp
  | case2 rest =>
    simp only [reduceCtorEq, false_iff, not_forall, not_not]
    exact ⟨[], rest, rfl⟩
  | case3 c rest hopening ih =>
    rw [Option.map_eq_none_iff, ih]
    constructor
    · rintro h (_ | ⟨first, before⟩) after heq
      · cases heq
        exact hopening after rfl rfl
      · rw [List.cons_append, List.cons.injEq] at heq
        exact h before after heq.2
    · intro h before after heq
      exact h (c :: before) after (by rw [heq, List.cons_append])

theorem tail_concat_plain (found : List Piece) (c : Char) :
    tail (found ++ [.plain c]) = tail found ++ [c] := by
  simp [tail, Piece.plain?]

theorem tail_concat_reference (found : List Piece) (reference : Reference) :
    tail (found ++ [.reference reference]) = [] := by
  simp [tail, Piece.plain?]

/-- A scan ends with the characters after its last reference. -/
theorem exists_eq_append_tail (found : List Piece) :
    ∃ front, found = front ++ (tail found).map .plain ∧
      (front = [] ∨ ∃ earlier last, front = earlier ++ [.reference last]) := by
  induction found using List.reverseRecOn with
  | nil => exact ⟨[], rfl, Or.inl rfl⟩
  | append_singleton found piece ih =>
    cases piece with
    | plain c =>
      obtain ⟨front, hfound, hends⟩ := ih
      refine ⟨front, ?_, hends⟩
      rw [tail_concat_plain, List.map_append, ← List.append_assoc, ← hfound]
      rfl
    | reference last =>
      refine ⟨found ++ [.reference last], ?_, Or.inr ⟨found, last, rfl⟩⟩
      rw [tail_concat_reference, List.map_nil, List.append_nil]

/-- A reference of a scan stands before the characters that the scan ends with. -/
theorem length_spelling_le (h : front ++ chars.map .plain = back ++ .reference reference :: found) :
    (spelling back).length + reference.spelling.length ≤ (spelling front).length := by
  have hnone : Piece.reference reference ∉ chars.map Piece.plain := by simp
  rcases List.append_eq_append_iff.mp h with ⟨middle, -, hchars⟩ | ⟨middle, hfront, hrest⟩
  · exact absurd (hchars ▸ by simp) hnone
  · cases middle with
    | nil =>
      rw [List.nil_append] at hrest
      exact absurd (hrest ▸ List.mem_cons_self) hnone
    | cons piece middle =>
      rw [List.cons_append, List.cons.injEq] at hrest
      rw [hfront, ← hrest.1]
      simp only [spelling_append, spelling_cons, Piece.spelling, List.length_append]
      omega

/-- An opening that starts in a reference lies in it as a whole, for the reference ends with a
brace. -/
theorem exists_spelling_eq_append {inside : List Char}
    (hlength : inside.length < reference.spelling.length)
    (h : reference.spelling ++ chars = inside ++ '$' :: '\x7b' :: after) :
    ∃ rest, reference.spelling = inside ++ '$' :: '\x7b' :: rest := by
  obtain ⟨before, hends⟩ := reference.exists_spelling_eq
  rcases List.append_eq_append_iff.mp h with ⟨middle, hinside, -⟩ | ⟨middle, hspelled, hrest⟩
  · rw [hinside, List.length_append] at hlength
    omega
  · rcases middle with _ | ⟨first, _ | ⟨second, rest⟩⟩
    · simp [hspelled] at hlength
    · rw [hends] at hspelled
      have hlast : '\x7d' = first := by simpa using congrArg List.getLast? hspelled
      simp [← hlast] at hrest
    · simp only [List.cons_append, List.cons.injEq] at hrest
      obtain ⟨rfl, rfl, -⟩ := hrest
      exact ⟨rest, hspelled⟩

/-- What follows the last reference of a scan opens none exactly when every opening of the text
lies inside a reference or stands before one. -/
theorem tail_opens_iff (found : List Piece) :
    (∀ before after, tail found ≠ before ++ '$' :: '\x7b' :: after) ↔
      ∀ before after, spelling found = before ++ '$' :: '\x7b' :: after →
        LiesInside found before ∨ IsFollowed found before := by
  obtain ⟨front, hfound, hends⟩ := exists_eq_append_tail found
  have hspelled : spelling found = spelling front ++ tail found := by
    rw [congrArg spelling hfound, spelling_append, spelling_map_plain]
  constructor
  · intro hnone before after hopening
    rcases hends with rfl | ⟨earlier, last, rfl⟩
    · rw [hspelled, spelling_nil, List.nil_append] at hopening
      exact absurd hopening (hnone before after)
    · rw [List.append_assoc, List.singleton_append] at hfound
      by_cases hlater : before.length < (spelling earlier).length
      · exact Or.inr ⟨earlier, last, _, hfound, hlater⟩
      · rw [hspelled, spelling_append, List.append_assoc, spelling_cons, spelling_nil,
          List.append_nil] at hopening
        obtain ⟨inside, rfl⟩ : spelling earlier <+: before :=
          List.prefix_of_prefix_length_le ⟨_, hopening⟩ ⟨_, rfl⟩ (Nat.not_lt.mp hlater)
        rw [List.append_assoc, List.append_cancel_left_eq] at hopening
        by_cases hlength : inside.length < last.spelling.length
        · obtain ⟨rest, hinside⟩ := exists_spelling_eq_append hlength hopening
          exact Or.inl ⟨earlier, last, _, inside, rest, hfound, rfl, hinside⟩
        · obtain ⟨behind, rfl⟩ : last.spelling <+: inside :=
            List.prefix_of_prefix_length_le ⟨_, hopening⟩ ⟨_, rfl⟩ (Nat.not_lt.mp hlength)
          rw [Piece.spelling, List.append_assoc, List.append_cancel_left_eq] at hopening
          exact absurd hopening (hnone behind after)
  · intro hall before after hopening
    have hplace : spelling found = (spelling front ++ before) ++ '$' :: '\x7b' :: after := by
      rw [hspelled, hopening, List.append_assoc]
    rcases hall _ _ hplace with ⟨earlier, reference, back, inside, rest, hback, hbefore, hinside⟩ |
      ⟨earlier, reference, back, hback, hlater⟩
    · have hlength := length_spelling_le (hfound.symm.trans hback)
      have hcounts := congrArg List.length hbefore
      rw [hinside] at hlength
      simp only [List.length_append, List.length_cons] at hlength hcounts
      omega
    · have hlength := length_spelling_le (hfound.symm.trans hback)
      rw [List.length_append] at hlater
      omega

theorem checkTail_eq_ok_iff :
    checkTail text chars = .ok () ↔ ∀ before after, chars ≠ before ++ '$' :: '\x7b' :: after := by
  rw [← cutOpening?_eq_none_iff, checkTail]
  cases cutOpening? chars <;> simp

/-- A text is expanded exactly when every piece of it has a value and what follows its last reference
opens none. -/
theorem expand_eq_ok_iff {lookup : String → Option String} {text expanded : String} :
    expand lookup text = .ok expanded ↔
      (∃ values, List.Forall₂ (Piece.Gives lookup) (pieces text.toList) values ∧
        expanded.toList = values.flatten) ∧
      ∀ before after, tail (pieces text.toList) ≠ before ++ '$' :: '\x7b' :: after := by
  simp only [expand, step_bind_eq_ok, expandPieces_eq_ok_iff]
  constructor
  · rintro ⟨_, ⟨values, hvalues, rfl⟩, ⟨⟩, htail, hreturn⟩
    cases hreturn
    exact ⟨⟨values, hvalues, String.toList_ofList⟩, checkTail_eq_ok_iff.mp htail⟩
  · rintro ⟨⟨values, hvalues, hexpanded⟩, htail⟩
    refine ⟨_, ⟨values, hvalues, rfl⟩, (), checkTail_eq_ok_iff.mpr htail, ?_⟩
    rw [← hexpanded, String.ofList_toList]
    rfl

/-- A text is expanded exactly when every piece of its scan has a value, and every opening lies
inside a reference or stands before one; what the pieces give is then the expanded text. An opening
that stands before a reference and lies in none is neither replaced nor refused. -/
theorem openings_of_expanded_text (lookup : String → Option String) (text expanded : String) :
    expand lookup text = .ok expanded ↔
      ∃ found values, Scan text.toList found ∧ List.Forall₂ (Piece.Gives lookup) found values ∧
        expanded.toList = values.flatten ∧
        ∀ before after, text.toList = before ++ '$' :: '\x7b' :: after →
          LiesInside found before ∨ IsFollowed found before := by
  have hspelled := (scan_pieces text.toList).spelling_eq
  have hopenings := tail_opens_iff (pieces text.toList)
  rw [hspelled] at hopenings
  rw [expand_eq_ok_iff, hopenings]
  constructor
  · rintro ⟨⟨values, hvalues, hexpanded⟩, hall⟩
    exact ⟨_, values, scan_pieces _, hvalues, hexpanded, hall⟩
  · rintro ⟨found, values, hscan, hvalues, hexpanded, hall⟩
    obtain rfl := scan_iff.mp hscan
    exact ⟨⟨values, hvalues, hexpanded⟩, hall⟩

/-- A name that a colon breaks is refused at the end of a text, but is kept before a reference: no
reference is written where it opens, and none of the scan holds it. -/
theorem broken_reference_before_another :
    let lookup := fun name => if name = "B" then some "1" else none
    let text := "$\x7bA:x\x7d $\x7bB\x7d"
    expand lookup "$\x7bA:x\x7d" = .error (.unclosed 0 "A:x\x7d") ∧
      expand lookup text = .ok "$\x7bA:x\x7d 1" ∧
      text.toList = [] ++ '$' :: '\x7b' :: "A:x\x7d $\x7bB\x7d".toList ∧
      (∀ reference : Reference, reference.WellFormed → ¬ reference.spelling <+: text.toList) ∧
      ∀ found, Scan text.toList found → ¬ LiesInside found [] := by
  intro lookup text
  have hpieces : pieces text.toList =
      .plain '$' :: ("\x7bA:x\x7d ".toList.map .plain ++ [.reference ⟨['B'], none⟩]) := by
    decide +kernel
  refine ⟨by decide +kernel, by decide +kernel, by decide +kernel, ?_, ?_⟩
  · rintro reference hformed ⟨rest, hspelled⟩
    rw [← hspelled, pieces_spelling_append hformed] at hpieces
    cases hpieces
  · rintro found hscan ⟨front, reference, back, inside, rest, hfound, hbefore, -⟩
    rw [← scan_iff.mp hscan, hpieces] at hfound
    cases front with
    | nil => cases hfound
    | cons piece front =>
      cases piece <;> simp [Piece.spelling, Reference.spelling] at hbefore

end ContainerCert.Config.Interpolation
