import ContainerCert.Proofs.Openings

/-!
# What the expansion of a text is

A reference has a value or fails, and which of the two depends only on its name, its default and
what the environment gives for the name. A text is scanned once from left to right; its expansion is
made of what the references of the scan stand for and of all characters between them, and the
leftmost reference that fails decides the error. Only when all references have values does it matter
that a reference opens behind the last of them.
-/

namespace ContainerCert.Config.Interpolation

open ContainerCert.Action (step_bind_eq_ok step_bind_eq_error)

/-- A letter without marks, or an underscore. -/
def IsIdentifierStart (c : Char) : Prop :=
  'A' ≤ c ∧ c ≤ 'Z' ∨ 'a' ≤ c ∧ c ≤ 'z' ∨ c = '_'

/-- Such a letter, an underscore or a digit. -/
def IsIdentifierChar (c : Char) : Prop :=
  IsIdentifierStart c ∨ '0' ≤ c ∧ c ≤ '9'

/-- The name of a variable: it is not empty and starts with no digit. -/
inductive IsIdentifier : List Char → Prop
  | intro {first : Char} {rest : List Char} (hfirst : IsIdentifierStart first)
      (hrest : ∀ c ∈ rest, IsIdentifierChar c) : IsIdentifier (first :: rest)

/-- What a reference stands for: the value of its name, but its default where it has one and the
value is empty or there is none. -/
inductive Reference.StandsFor (lookup : String → Option String) : Reference → List Char → Prop
  | value {name : List Char} {default : Option (List Char)} {value : String}
      (hname : IsIdentifier name) (hset : lookup (String.ofList name) = some value)
      (hfilled : default = none ∨ value ≠ "") : StandsFor lookup ⟨name, default⟩ value.toList
  | default {name default : List Char} (hname : IsIdentifier name)
      (hunset : lookup (String.ofList name) = none ∨ lookup (String.ofList name) = some "") :
      StandsFor lookup ⟨name, some default⟩ default

/-- Why a reference stands for nothing: its name is none, or it has no default and no value. -/
inductive Reference.Fails (lookup : String → Option String) : Reference → ExpandError → Prop
  | emptyName {default : Option (List Char)} : Fails lookup ⟨[], default⟩ .emptyName
  | badStart {first : Char} {rest : List Char} {default : Option (List Char)}
      (hfirst : ¬ IsIdentifierStart first) :
      Fails lookup ⟨first :: rest, default⟩ (.badStart (String.ofList (first :: rest)))
  | badCharacter {front back : List Char} {c : Char} {default : Option (List Char)}
      (hfront : IsIdentifier front) (hc : ¬ IsIdentifierChar c) :
      Fails lookup ⟨front ++ c :: back, default⟩
        (.badCharacter (String.ofList (front ++ c :: back)) c)
  | unset {name : List Char} (hname : IsIdentifier name)
      (hunset : lookup (String.ofList name) = none) :
      Fails lookup ⟨name, none⟩ (.unset (String.ofList name))

variable {lookup other : String → Option String} {reference : Reference} {name value : List Char}
  {cause : ExpandError} {c : Char} {found : List Piece}

theorem isNameStart_iff : isNameStart c = true ↔ IsIdentifierStart c := by
  change (decide ('A' ≤ c ∧ c ≤ 'Z') || (decide ('a' ≤ c) && decide (c ≤ 'z')) || c == '_') = true ↔
    _
  simp only [IsIdentifierStart, Bool.or_eq_true, Bool.and_eq_true, decide_eq_true_eq, beq_iff_eq,
    or_assoc]

theorem isNameChar_iff : isNameChar c = true ↔ IsIdentifierChar c := by
  rw [IsIdentifierChar, ← isNameStart_iff, isNameChar, isNameStart]
  simp only [Char.isDigit, Bool.or_eq_true, Bool.and_eq_true, decide_eq_true_eq, beq_iff_eq,
    Char.le_def, or_right_comm]

theorem IsIdentifier.isIdentifierChar (h : IsIdentifier name) : ∀ c ∈ name, IsIdentifierChar c := by
  obtain ⟨hfirst, hrest⟩ := h
  exact List.forall_mem_cons.mpr ⟨.inl hfirst, hrest⟩

/-- A name is that of a variable, or it is empty, starts with something else than a letter or an
underscore, or has some other character that it may not have. -/
theorem identifier_cases (name : List Char) :
    IsIdentifier name ∨ name = [] ∨
      (∃ first rest, name = first :: rest ∧ ¬ IsIdentifierStart first) ∨
      ∃ front c back, name = front ++ c :: back ∧ IsIdentifier front ∧ ¬ IsIdentifierChar c := by
  cases name with
  | nil => exact .inr (.inl rfl)
  | cons first rest =>
    by_cases hfirst : IsIdentifierStart first
    · cases hfind : rest.find? fun c => !isNameChar c with
      | none =>
        refine .inl ⟨hfirst, fun c hc => isNameChar_iff.mp ?_⟩
        simpa using List.find?_eq_none.mp hfind c hc
      | some c =>
        obtain ⟨hc, front, back, hrest, hfront⟩ := List.find?_eq_some_iff_append.mp hfind
        have hbad : ¬ IsIdentifierChar c := by
          rw [← isNameChar_iff]
          simpa using hc
        refine .inr (.inr (.inr ⟨first :: front, c, back, by rw [hrest]; rfl,
          ⟨hfirst, fun d hd => isNameChar_iff.mp ?_⟩, hbad⟩))
        simpa using hfront d hd
    · exact .inr (.inr (.inl ⟨first, rest, rfl, hfirst⟩))

theorem checkName_of_isIdentifier (h : IsIdentifier name) : checkName name = .ok () := by
  have hchars := h.isIdentifierChar
  obtain ⟨hfirst, hrest⟩ := h
  have hnone : List.find? (fun c => !isNameChar c) (_ :: _) = none :=
    List.find?_eq_none.mpr fun c hc => by simpa using isNameChar_iff.mpr (hchars c hc)
  simp only [checkName, isNameStart_iff.mpr hfirst, Bool.not_true, Bool.false_eq_true, if_false,
    hnone]

/-- What a reference stands for is what it resolves to. -/
theorem Reference.StandsFor.resolve_eq (h : reference.StandsFor lookup value) :
    resolve lookup reference = .ok value := by
  cases h with
  | @value name default value hname hset hfilled =>
    simp only [resolve, checkName_of_isIdentifier hname, hset]
    rcases hfilled with rfl | hfilled
    · rfl
    · cases default with
      | none => rfl
      | some default =>
        have hvalue : value.isEmpty = false := by simpa using hfilled
        simp only [hvalue]
        rfl
  | default hname hunset =>
    simp only [resolve, checkName_of_isIdentifier hname]
    rcases hunset with hunset | hunset
    · rw [hunset]
      rfl
    · rw [hunset]
      rfl

/-- Why a reference fails is why it does not resolve. -/
theorem Reference.Fails.resolve_eq (h : reference.Fails lookup cause) :
    resolve lookup reference = .error cause := by
  cases h with
  | emptyName => rfl
  | badStart hfirst =>
    have hstart := mt isNameStart_iff.mp hfirst
    simp only [resolve, checkName, hstart]
    rfl
  | @badCharacter front back c default hfront hc =>
    have hfind : (front ++ c :: back).find? (fun c => !isNameChar c) = some c := by
      rw [List.find?_eq_some_iff_append]
      refine ⟨by simpa using mt isNameChar_iff.mp hc, front, back, rfl, fun d hd => ?_⟩
      simpa using isNameChar_iff.mpr (hfront.isIdentifierChar d hd)
    obtain ⟨hfirst, -⟩ := hfront
    rw [List.cons_append] at hfind
    simp only [resolve, checkName, List.cons_append, isNameStart_iff.mpr hfirst, hfind]
    rfl
  | unset hname hunset =>
    simp only [resolve, checkName_of_isIdentifier hname, hunset]
    rfl

/-- Every reference stands for something or fails. -/
theorem Reference.standsFor_or_fails (lookup : String → Option String) (reference : Reference) :
    (∃ value, reference.StandsFor lookup value) ∨ ∃ cause, reference.Fails lookup cause := by
  obtain ⟨name, default⟩ := reference
  rcases identifier_cases name with hname | rfl | ⟨first, rest, rfl, hfirst⟩ |
    ⟨front, c, back, rfl, hfront, hc⟩
  · cases hlookup : lookup (String.ofList name) with
    | none =>
      cases default with
      | none => exact .inr ⟨_, .unset hname hlookup⟩
      | some default => exact .inl ⟨_, .default hname (.inl hlookup)⟩
    | some value =>
      by_cases hempty : value = ""
      · subst hempty
        cases default with
        | none => exact .inl ⟨_, .value hname hlookup (.inl rfl)⟩
        | some default => exact .inl ⟨_, .default hname (.inr hlookup)⟩
      · exact .inl ⟨_, .value hname hlookup (.inr hempty)⟩
  · exact .inr ⟨_, .emptyName⟩
  · exact .inr ⟨_, .badStart hfirst⟩
  · exact .inr ⟨_, .badCharacter hfront hc⟩

theorem resolve_eq_ok_iff :
    resolve lookup reference = .ok value ↔ reference.StandsFor lookup value := by
  refine ⟨fun h => ?_, Reference.StandsFor.resolve_eq⟩
  rcases reference.standsFor_or_fails lookup with ⟨other, hother⟩ | ⟨cause, hcause⟩
  · cases h.symm.trans hother.resolve_eq
    exact hother
  · cases h.symm.trans hcause.resolve_eq

theorem resolve_eq_error_iff :
    resolve lookup reference = .error cause ↔ reference.Fails lookup cause := by
  refine ⟨fun h => ?_, Reference.Fails.resolve_eq⟩
  rcases reference.standsFor_or_fails lookup with ⟨value, hvalue⟩ | ⟨other, hother⟩
  · cases h.symm.trans hvalue.resolve_eq
  · cases h.symm.trans hother.resolve_eq
    exact hother

/-- What a piece of a scan stands for: a character for itself, a reference for its value. -/
def Piece.StandsFor (lookup : String → Option String) : Piece → List Char → Prop
  | .plain c, given => given = [c]
  | .reference written, given => written.StandsFor lookup given

theorem Piece.gives_eq_standsFor : Piece.Gives lookup = Piece.StandsFor lookup := by
  funext piece given
  cases piece with
  | plain c => rfl
  | reference written => exact propext resolve_eq_ok_iff

/-- The leftmost reference of a scan that fails, and why. -/
def FailsFirst (lookup : String → Option String) (found : List Piece) (cause : ExpandError) :
    Prop :=
  ∃ front reference back, found = front ++ .reference reference :: back ∧
    (∀ earlier, .reference earlier ∈ front → ∃ value, earlier.StandsFor lookup value) ∧
    reference.Fails lookup cause

/-- Behind the last reference of a scan, or anywhere if there is none, a reference opens for the
first time between what is before and what is after. -/
def OpensLast (found : List Piece) (before after : List Char) : Prop :=
  ∃ front between, found = front ++ (between ++ '$' :: '\x7b' :: after).map .plain ∧
    (front = [] ∨ ∃ earlier last, front = earlier ++ [.reference last]) ∧
    before = spelling front ++ between ∧
    ∀ sooner rest, between ++ '$' :: '\x7b' :: after = sooner ++ '$' :: '\x7b' :: rest →
      between.length ≤ sooner.length

/-- The expansion of pieces fails with the error of the leftmost reference that does. -/
theorem expandPieces_eq_error_iff :
    expandPieces lookup found = .error cause ↔ FailsFirst lookup found cause := by
  induction found with
  | nil => simp [expandPieces, FailsFirst]
  | cons piece found ih =>
    cases piece with
    | plain c =>
      simp only [expandPieces, step_bind_eq_error, ih]
      constructor
      · rintro (⟨front, reference, back, rfl, hfront, hfails⟩ | ⟨_, -, hreturn⟩)
        · exact ⟨.plain c :: front, reference, back, rfl, by simpa using hfront, hfails⟩
        · cases hreturn
      · rintro ⟨_ | ⟨first, front⟩, reference, back, hfound, hfront, hfails⟩
        · cases hfound
        · cases hfound
          exact .inl ⟨front, reference, back, rfl, by simpa using hfront, hfails⟩
    | reference written =>
      simp only [expandPieces, step_bind_eq_error, ih, resolve_eq_error_iff]
      constructor
      · rintro (hfails | ⟨value, hvalue, ⟨front, reference, back, rfl, hfront, hfails⟩ |
          ⟨_, -, hreturn⟩⟩)
        · exact ⟨[], written, found, rfl, by simp, hfails⟩
        · refine ⟨.reference written :: front, reference, back, rfl, ?_, hfails⟩
          simpa using ⟨⟨value, resolve_eq_ok_iff.mp hvalue⟩, hfront⟩
        · cases hreturn
      · rintro ⟨_ | ⟨first, front⟩, reference, back, hfound, hfront, hfails⟩
        · cases hfound
          exact .inl hfails
        · cases hfound
          obtain ⟨value, hvalue⟩ := hfront written List.mem_cons_self
          refine .inr ⟨value, resolve_eq_ok_iff.mpr hvalue, .inl ⟨front, reference, back, rfl, ?_,
            hfails⟩⟩
          exact fun earlier hmem => hfront earlier (List.mem_cons_of_mem _ hmem)

/-- Only what the environment gives for the names of references matters. -/
theorem expandPieces_of_agree (h : ∀ reference, .reference reference ∈ found →
    other (String.ofList reference.name) = lookup (String.ofList reference.name)) :
    expandPieces other found = expandPieces lookup found := by
  induction found with
  | nil => rfl
  | cons piece found ih =>
    have hrest := ih fun reference hmem => h reference (List.mem_cons_of_mem _ hmem)
    cases piece with
    | plain c => rw [expandPieces, expandPieces, hrest]
    | reference written =>
      have hsame : resolve other written = resolve lookup written := by
        simp only [resolve, h written List.mem_cons_self]
      rw [expandPieces, expandPieces, hrest, hsame]

section Closing

variable {text before after chars : List Char} {front : List Piece}

/-- What is cut at is the first opening. -/
theorem cutOpening?_eq_some_iff : cutOpening? text = some (before, after) ↔
    text = before ++ '$' :: '\x7b' :: after ∧ ∀ sooner rest,
      text = sooner ++ '$' :: '\x7b' :: rest → before.length ≤ sooner.length := by
  fun_induction cutOpening? text generalizing before with
  | case1 => simp
  | case2 rest =>
    constructor
    · rintro ⟨⟩
      exact ⟨rfl, fun _ _ _ => Nat.zero_le _⟩
    · rintro ⟨htext, hfirst⟩
      obtain rfl := List.eq_nil_of_length_eq_zero (Nat.le_zero.mp (hfirst [] rest rfl))
      cases htext
      rfl
  | case3 c rest hopening ih =>
    rw [Option.map_eq_some_iff]
    constructor
    · rintro ⟨⟨between, behind⟩, hcut, heq⟩
      cases heq
      obtain ⟨htext, hfirst⟩ := ih.mp hcut
      refine ⟨by rw [htext]; rfl, ?_⟩
      rintro (_ | ⟨d, sooner⟩) behind' hsooner
      · cases hsooner
        exact (hopening _ rfl rfl).elim
      · rw [List.cons_append, List.cons.injEq] at hsooner
        exact Nat.succ_le_succ (hfirst sooner behind' hsooner.2)
    · rintro ⟨htext, hfirst⟩
      cases before with
      | nil =>
        cases htext
        exact (hopening _ rfl rfl).elim
      | cons d before =>
        cases htext
        refine ⟨(before, after), ih.mpr ⟨rfl, fun sooner behind hsooner => ?_⟩, rfl⟩
        exact Nat.le_of_succ_le_succ (hfirst (c :: sooner) behind (by rw [hsooner]; rfl))

theorem bytes_append (first second : List Char) :
    bytes (first ++ second) = bytes first + bytes second := by
  rw [bytes, String.ofList_append, String.utf8ByteSize_append, bytes, bytes]

/-- The characters after the last reference, where what is before them ends with one. -/
theorem tail_append_map_plain
    (hfront : front = [] ∨ ∃ earlier last, front = earlier ++ [.reference last]) :
    tail (front ++ chars.map .plain) = chars := by
  induction chars using List.reverseRecOn with
  | nil =>
    rw [List.map_nil, List.append_nil]
    rcases hfront with rfl | ⟨earlier, last, rfl⟩
    · rfl
    · exact tail_concat_reference earlier last
  | append_singleton chars c ih =>
    rw [List.map_append, List.map_singleton, ← List.append_assoc, tail_concat_plain, ih]

/-- A scan is left open exactly where a reference opens behind its last one, and the error tells the
place and what follows. -/
theorem checkTail_eq_error_iff : checkTail (spelling found) (tail found) = .error cause ↔
    ∃ before after, OpensLast found before after ∧
      cause = .unclosed (bytes before) (String.ofList (after.take snippetLength)) := by
  obtain ⟨front, hfound, hfront⟩ := exists_eq_append_tail found
  have hspelled : spelling found = spelling front ++ tail found := by
    rw [congrArg spelling hfound, spelling_append, spelling_map_plain]
  have hplace (between : List Char) : bytes (spelling found) - bytes (tail found) + bytes between =
      bytes (spelling front ++ between) := by
    rw [hspelled, bytes_append, bytes_append, Nat.add_sub_cancel]
  rw [checkTail]
  constructor
  · intro h
    split at h
    · cases h
    · next between after hcut =>
      obtain ⟨htail, hfirst⟩ := cutOpening?_eq_some_iff.mp hcut
      rw [htail] at hfound hfirst
      refine ⟨spelling front ++ between, after, ⟨front, between, hfound, hfront, rfl, hfirst⟩, ?_⟩
      rw [← hplace]
      exact (Except.error.inj h).symm
  · rintro ⟨before, after, ⟨front', between, hfound', hfront', rfl, hfirst⟩, rfl⟩
    have htail : tail found = between ++ '$' :: '\x7b' :: after := by
      rw [hfound', tail_append_map_plain hfront']
    obtain rfl : front = front' := by
      rw [htail] at hfound
      exact List.append_cancel_right (hfound.symm.trans hfound')
    rw [cutOpening?_eq_some_iff.mpr ⟨htail, by rwa [htail]⟩]
    simp only [hplace]

end Closing

variable {text : String}

/-- A text is not expanded where a reference fails, for the reason of the leftmost one, or else
where one opens behind the last reference. -/
theorem expand_eq_error_iff : expand lookup text = .error cause ↔
    FailsFirst lookup (pieces text.toList) cause ∨
      (∃ values, List.Forall₂ (Piece.StandsFor lookup) (pieces text.toList) values) ∧
      ∃ before after, OpensLast (pieces text.toList) before after ∧
        cause = .unclosed (bytes before) (String.ofList (after.take snippetLength)) := by
  have hclosing := @checkTail_eq_error_iff cause (pieces text.toList)
  rw [(scan_pieces text.toList).spelling_eq] at hclosing
  rw [← hclosing, ← expandPieces_eq_error_iff, ← Piece.gives_eq_standsFor]
  simp only [expand, step_bind_eq_error, expandPieces_eq_ok_iff]
  constructor
  · rintro (hfails | ⟨_, ⟨values, hvalues, rfl⟩, hopens | ⟨_, -, hreturn⟩⟩)
    · exact .inl hfails
    · exact .inr ⟨⟨values, hvalues⟩, hopens⟩
    · cases hreturn
  · rintro (hfails | ⟨⟨values, hvalues⟩, hopens⟩)
    · exact .inl hfails
    · exact .inr ⟨_, ⟨values, hvalues, rfl⟩, .inl hopens⟩

/-- A text is expanded where all pieces of it stand for something and no reference opens behind the
last one. -/
theorem expand_eq_ok_iff_closed {expanded : String} : expand lookup text = .ok expanded ↔
    (∃ values, List.Forall₂ (Piece.StandsFor lookup) (pieces text.toList) values ∧
      expanded.toList = values.flatten) ∧
    ∀ before after, ¬ OpensLast (pieces text.toList) before after := by
  rw [expand_eq_ok_iff, ← Piece.gives_eq_standsFor,
    ← @checkTail_eq_ok_iff (spelling (pieces text.toList))]
  refine and_congr_right fun _ => ?_
  constructor
  · intro hcloses before after hopens
    cases hcloses.symm.trans (checkTail_eq_error_iff.mpr ⟨before, after, hopens, rfl⟩)
  · intro hnone
    rcases hchecked : checkTail (spelling (pieces text.toList)) (tail (pieces text.toList)) with
      cause | ⟨⟩
    · obtain ⟨before, after, hopens, -⟩ := checkTail_eq_error_iff.mp hchecked
      exact absurd hopens (hnone before after)
    · rfl

/-- The expansion of a text goes by its only scan. It is what the pieces of the scan stand for, each
character for itself and each reference for its value or its default, none of which is scanned
again. Where references fail, the leftmost of them decides the error; where none does, the text is
refused if a reference opens behind the last one, and the error tells the place of this opening and
what follows it. Of the environment only what it gives for the names of the references matters. -/
theorem expansion_of_scan (lookup : String → Option String) (text : String) :
    ∃ found, Scan text.toList found ∧ (∀ others, Scan text.toList others → others = found) ∧
      (∀ expanded, expand lookup text = .ok expanded ↔
        (∃ values, List.Forall₂ (Piece.StandsFor lookup) found values ∧
          expanded.toList = values.flatten) ∧
        ∀ before after, ¬ OpensLast found before after) ∧
      (∀ cause, expand lookup text = .error cause ↔ FailsFirst lookup found cause ∨
        (∃ values, List.Forall₂ (Piece.StandsFor lookup) found values) ∧
        ∃ before after, OpensLast found before after ∧
          cause = .unclosed (bytes before) (String.ofList (after.take snippetLength))) ∧
      ∀ other : String → Option String,
        (∀ reference, .reference reference ∈ found →
          other (String.ofList reference.name) = lookup (String.ofList reference.name)) →
        expand other text = expand lookup text := by
  refine ⟨pieces text.toList, scan_pieces _, fun _ h => (scan_iff.mp h).symm,
    fun _ => expand_eq_ok_iff_closed, fun _ => expand_eq_error_iff, fun other hagree => ?_⟩
  rw [expand, expand, expandPieces_of_agree hagree]

/-- A text that opens a reference and never closes it has none, and all its characters stand for
themselves, but it is refused. -/
theorem unclosed_text_refused :
    let text := "$\x7bOPEN"
    let lookup : String → Option String := fun _ => none
    (∃ found values, Scan text.toList found ∧ (∀ reference, .reference reference ∉ found) ∧
      List.Forall₂ (Piece.StandsFor lookup) found values ∧ values.flatten = text.toList) ∧
      expand lookup text = .error (.unclosed 0 "OPEN") := by
  intro text lookup
  have hpieces : pieces text.toList = text.toList.map .plain := by decide +kernel
  refine ⟨⟨_, text.toList.map ([·]), scan_iff.mpr hpieces, by simp, ?_, by decide +kernel⟩,
    by decide +kernel⟩
  rw [List.forall₂_map_left_iff, List.forall₂_map_right_iff, List.forall₂_same]
  exact fun _ _ => rfl

end ContainerCert.Config.Interpolation
