import ContainerCert.Image.Reference
import ContainerCert.Proofs.Actions
import Mathlib.Data.List.DropRight

/-!
# The grammar of references

A text without blanks at its ends falls into a name, a tag and a digest in one way only, and its
name stands for one repository of one registry. It is a reference exactly when the parts that it
has are well formed, and else the verdict names the first part that is not: the digest before the
tag, and the tag before the repository.
-/

namespace ContainerCert.Text

variable {text : List Char}

/-- Whether a text has no blank characters at its ends. -/
def IsTrimmed (text : List Char) : Prop :=
  (∀ c ∈ text.head?, isBlank c = false) ∧ ∀ c ∈ text.getLast?, isBlank c = false

theorem trim_eq (text : List Char) : trim text = (text.dropWhile isBlank).rdropWhile isBlank := rfl

/-- Nothing is left exactly of a blank text. -/
theorem trim_eq_nil_iff : trim text = [] ↔ ∀ c ∈ text, isBlank c = true := by
  rw [trim_eq, List.rdropWhile_eq_nil_iff]
  constructor
  · intro h c hc
    rw [← List.takeWhile_append_dropWhile (p := isBlank) (l := text), List.mem_append] at hc
    rcases hc with hc | hc
    · exact List.mem_takeWhile_imp hc
    · exact h c hc
  · intro h c hc
    exact h c (List.dropWhile_subset _ hc)

theorem isTrimmed_trim (text : List Char) : IsTrimmed (trim text) := by
  rw [trim_eq]
  constructor
  · intro c hc
    obtain ⟨rest, hrest⟩ := List.rdropWhile_prefix isBlank (text.dropWhile isBlank)
    have hfirst := List.head?_dropWhile_not isBlank text
    rw [← hrest, List.head?_append, Option.mem_def.mp hc] at hfirst
    exact hfirst
  · intro c hc
    obtain ⟨hne, rfl⟩ := List.mem_getLast?_eq_getLast hc
    exact Bool.eq_false_iff.mpr (List.rdropWhile_last_not isBlank (text.dropWhile isBlank) hne)

/-- Nothing is taken off a text without blanks at its ends. -/
theorem trim_eq_self (h : IsTrimmed text) : trim text = text := by
  cases text with
  | nil => rfl
  | cons c rest =>
    have hfirst : isBlank c = false := h.1 c rfl
    rw [trim_eq, List.dropWhile_cons_of_neg (Bool.eq_false_iff.mp hfirst),
      List.rdropWhile_eq_self_iff]
    exact fun hne => Bool.eq_false_iff.mp (h.2 _ (List.getLast?_eq_some_getLast hne))

end ContainerCert.Text

namespace ContainerCert.Image

open Text (cutFirst? cutLast? splitAt joinWith trim isBlank)

namespace Reference

/-- A small letter or a digit of ASCII. -/
def IsSmall (c : Char) : Prop :=
  ('a' ≤ c ∧ c ≤ 'z') ∨ ('0' ≤ c ∧ c ≤ '9')

/-- A letter or a digit of ASCII. -/
def IsLetterOrDigit (c : Char) : Prop :=
  IsSmall c ∨ ('A' ≤ c ∧ c ≤ 'Z')

/-- A hexadecimal digit of ASCII. -/
def IsHexadecimal (c : Char) : Prop :=
  ('0' ≤ c ∧ c ≤ '9') ∨ ('a' ≤ c ∧ c ≤ 'f') ∨ ('A' ≤ c ∧ c ≤ 'F')

/-- A digest names an algorithm and gives 32 hexadecimal digits or more after a colon. -/
def IsDigestText (digest : List Char) : Prop :=
  ∃ algorithm hex, digest = algorithm ++ ':' :: hex ∧
    algorithm ≠ [] ∧ (∀ c ∈ algorithm, IsLetterOrDigit c) ∧
    32 ≤ hex.length ∧ ∀ c ∈ hex, IsHexadecimal c

/-- A tag has 1 to 128 letters, digits, underscores, points and hyphens; no point or hyphen comes
first. -/
def IsTagText (tag : List Char) : Prop :=
  1 ≤ tag.length ∧ tag.length ≤ 128 ∧
    (∀ c ∈ tag, IsLetterOrDigit c ∨ c = '_' ∨ c = '.' ∨ c = '-') ∧
    ∀ c ∈ tag.head?, IsLetterOrDigit c ∨ c = '_'

/-- A component of a repository has small letters, digits, points, underscores and hyphens; a
letter or a digit comes first. -/
def IsComponent (part : List Char) : Prop :=
  part ≠ [] ∧ (∀ c ∈ part, IsSmall c ∨ c = '.' ∨ c = '_' ∨ c = '-') ∧ ∀ c ∈ part.head?, IsSmall c

/-- A repository is one component or several with slashes between them. -/
def IsRepository (repository : List Char) : Prop :=
  ∃ components, components ≠ [] ∧ (∀ part ∈ components, IsComponent part) ∧
    repository = joinWith '/' components

/-- Whether the first part of a name says in which registry its repository is. -/
def SaysRegistry (part : List Char) : Prop :=
  '.' ∈ part ∨ ':' ∈ part ∨ part = "localhost".toList

/-- The repository that a name stands for, and the registry it is in. -/
inductive StandsFor : List Char → List Char → List Char → Prop
  /-- The part before the first slash is the registry. -/
  | given {registry repository : List Char} : '/' ∉ registry → SaysRegistry registry →
      StandsFor (registry ++ '/' :: repository) registry repository
  /-- The part before the first slash belongs to the repository, which is in the default one. -/
  | path {first rest : List Char} : '/' ∉ first → ¬ SaysRegistry first →
      StandsFor (first ++ '/' :: rest) "docker.io".toList (first ++ '/' :: rest)
  /-- A name without a slash is one of the library of the default registry. -/
  | library {name : List Char} : '/' ∉ name →
      StandsFor name "docker.io".toList ("library/".toList ++ name)

/-- A part with the mark it follows, or nothing. -/
def marked (mark : Char) : Option (List Char) → List Char
  | none => []
  | some part => mark :: part

/-- A text is a name with a tag, which follows the last colon after the last slash. -/
structure HasTag (text name : List Char) (tag : Option (List Char)) : Prop where
  eq : text = name ++ marked ':' tag
  last : ∀ part ∈ tag, ':' ∉ part ∧ '/' ∉ part
  /-- Without a tag there is no colon after the last slash. -/
  none_after : tag = none → ∀ before after, name = before ++ ':' :: after → '/' ∈ after

/-- A text falls into a name, a tag and a digest, which is all after the first at sign. -/
structure FallsInto (text name : List Char) (tag digest : Option (List Char)) : Prop where
  eq : text = (name ++ marked ':' tag) ++ marked '@' digest
  first : '@' ∉ name ++ marked ':' tag
  tagged : HasTag (name ++ marked ':' tag) name tag

/-- The text is a reference, with these parts. -/
def Spells (text : List Char) (reference : Reference) : Prop :=
  ∃ name,
    FallsInto text name (reference.tag.map String.toList) (reference.digest.map String.toList) ∧
    StandsFor name reference.registry.toList reference.repository.toList ∧
    IsRepository reference.repository.toList ∧
    (∀ tag ∈ reference.tag, IsTagText tag.toList) ∧
    ∀ digest ∈ reference.digest, IsDigestText digest.toList

/-- What can be wrong with a text; the blanks at its ends are no fault. -/
def IsFault (text : List Char) : ReferenceError → Prop
  | .empty => ∀ c ∈ text, isBlank c = true
  | .invalidDigest digest => ¬ IsDigestText digest.toList ∧
      ∃ name tag, FallsInto (trim text) name tag (some digest.toList)
  | .invalidTag tag => ¬ IsTagText tag.toList ∧
      ∃ name digest, FallsInto (trim text) name (some tag.toList) digest
  | .invalidRepository name => ∃ tag digest, FallsInto (trim text) name.toList tag digest ∧
      ∃ registry repository, StandsFor name.toList registry repository ∧ ¬ IsRepository repository

/-- The place of a fault in the order in which they are told. -/
def faultOrder : ReferenceError → Nat
  | .empty => 0
  | .invalidDigest _ => 1
  | .invalidTag _ => 2
  | .invalidRepository _ => 3

/-- The fault of a text that is told: no other comes before it. -/
def IsFirstFault (text : List Char) (error : ReferenceError) : Prop :=
  IsFault text error ∧ ∀ other, IsFault text other → faultOrder error ≤ faultOrder other

/-! ### Characters and parts -/

theorem isUpper_iff {c : Char} : c.isUpper = true ↔ 'A' ≤ c ∧ c ≤ 'Z' :=
  decide_eq_true_iff

theorem isLower_iff {c : Char} : c.isLower = true ↔ 'a' ≤ c ∧ c ≤ 'z' := by
  change (decide ('a' ≤ c) && decide (c ≤ 'z')) = true ↔ _
  rw [Bool.and_eq_true, decide_eq_true_iff, decide_eq_true_iff]

theorem isDigit_iff {c : Char} : c.isDigit = true ↔ '0' ≤ c ∧ c ≤ '9' := by
  change (decide ('0' ≤ c) && decide (c ≤ '9')) = true ↔ _
  rw [Bool.and_eq_true, decide_eq_true_iff, decide_eq_true_iff]

theorem isAlphanumeric_iff {c : Char} : isAlphanumeric c = true ↔ IsLetterOrDigit c := by
  change ((c.isUpper || c.isLower) || c.isDigit) = true ↔ _
  rw [Bool.or_eq_true, Bool.or_eq_true, isUpper_iff, isLower_iff, isDigit_iff, or_assoc, or_comm]
  rfl

theorem isHexDigit_iff {c : Char} : isHexDigit c = true ↔ IsHexadecimal c := by
  simp only [isHexDigit, isDigit_iff, IsHexadecimal, Bool.or_eq_true, Bool.and_eq_true,
    decide_eq_true_eq, or_assoc]

theorem isPathChar_iff {c : Char} :
    isPathChar c = true ↔ IsSmall c ∨ c = '.' ∨ c = '_' ∨ c = '-' := by
  simp only [isPathChar, isLower_iff, isDigit_iff, IsSmall, Bool.or_eq_true, beq_iff_eq, or_assoc]

theorem isTagChar_iff {c : Char} :
    isTagChar c = true ↔ IsLetterOrDigit c ∨ c = '_' ∨ c = '.' ∨ c = '-' := by
  simp only [isTagChar, Bool.or_eq_true, beq_iff_eq, isAlphanumeric_iff, or_assoc]

theorem isDigest_iff {digest : List Char} : isDigest digest = true ↔ IsDigestText digest := by
  constructor
  · intro h
    unfold isDigest at h
    cases hcut : cutFirst? ':' digest with
    | none => simp [hcut] at h
    | some parts =>
      obtain ⟨algorithm, hex⟩ := parts
      simp only [hcut, Bool.and_eq_true, Bool.not_eq_true', List.isEmpty_eq_false_iff,
        List.all_eq_true, decide_eq_true_eq, isAlphanumeric_iff, isHexDigit_iff] at h
      obtain ⟨⟨⟨halgorithm, hletters⟩, hlength⟩, hdigits⟩ := h
      exact ⟨algorithm, hex, (Text.cutFirst?_eq_some hcut).1, halgorithm, hletters, hlength,
        hdigits⟩
  · rintro ⟨algorithm, hex, rfl, halgorithm, hletters, hlength, hdigits⟩
    have hcolon : ':' ∉ algorithm :=
      fun h => absurd (isAlphanumeric_iff.mpr (hletters _ h)) (by decide)
    simp only [isDigest, Text.cutFirst?_append hcolon, Bool.and_eq_true, Bool.not_eq_true',
      List.isEmpty_eq_false_iff, List.all_eq_true, decide_eq_true_eq, isAlphanumeric_iff,
      isHexDigit_iff]
    exact ⟨⟨⟨halgorithm, hletters⟩, hlength⟩, hdigits⟩

theorem isTag_iff {tag : List Char} : isTag tag = true ↔ IsTagText tag := by
  cases tag with
  | nil => simp [isTag, IsTagText]
  | cons c rest =>
    simp only [isTag, IsTagText, Bool.and_eq_true, decide_eq_true_eq, Bool.or_eq_true,
      beq_iff_eq, List.all_eq_true, isAlphanumeric_iff, isTagChar_iff, List.head?_cons,
      Option.mem_def, Option.some.injEq, forall_eq']
    constructor
    · rintro ⟨⟨hlength, hfirst⟩, hchars⟩
      exact ⟨Nat.succ_pos _, hlength, hchars, hfirst⟩
    · rintro ⟨-, hlength, hchars, hfirst⟩
      exact ⟨⟨hlength, hfirst⟩, hchars⟩

theorem isPathComponent_iff {part : List Char} :
    isPathComponent part = true ↔ IsComponent part := by
  cases part with
  | nil => simp [isPathComponent, IsComponent]
  | cons c rest =>
    simp only [isPathComponent, IsComponent, Bool.and_eq_true, List.all_eq_true, isPathChar_iff,
      isAlphanumeric_iff, List.head?_cons, Option.mem_def, Option.some.injEq, forall_eq', ne_eq,
      reduceCtorEq, not_false_eq_true, true_and]
    constructor
    · rintro ⟨hfirst, hchars⟩
      refine ⟨hchars, ?_⟩
      -- Of the letters and digits, a component has no capitals.
      rcases hchars c List.mem_cons_self with hsmall | rfl | rfl | rfl
      · exact hsmall
      all_goals exact absurd (isAlphanumeric_iff.mpr hfirst) (by decide)
    · rintro ⟨hchars, hfirst⟩
      exact ⟨Or.inl hfirst, hchars⟩

/-- A mark that no component has in it is not in a repository, unless it is the slash. -/
theorem notMem_component {mark : Char} (hmark : isPathChar mark = false) {part : List Char}
    (h : IsComponent part) : mark ∉ part := by
  intro hmem
  rw [isPathChar_iff.mpr (h.2.1 mark hmem)] at hmark
  exact Bool.noConfusion hmark

theorem isRepository_iff {repository : List Char} :
    (splitAt '/' repository).all isPathComponent = true ↔ IsRepository repository := by
  simp only [List.all_eq_true, isPathComponent_iff]
  constructor
  · intro h
    exact ⟨splitAt '/' repository, Text.splitAt_ne_nil '/' repository, h,
      (Text.joinWith_splitAt '/' repository).symm⟩
  · rintro ⟨components, hne, hcomponents, rfl⟩
    rwa [Text.splitAt_joinWith hne fun part hpart =>
      notMem_component (by decide) (hcomponents part hpart)]

theorem isRegistry_iff {part : List Char} : isRegistry part = true ↔ SaysRegistry part := by
  simp only [isRegistry, SaysRegistry, Bool.or_eq_true, List.contains_iff_mem, beq_iff_eq, or_assoc]

/-- A name stands for just the repository and registry that it is split into. -/
theorem splitRegistry_eq_iff {name registry repository : List Char} :
    splitRegistry name = (registry, repository) ↔ StandsFor name registry repository := by
  constructor
  · intro h
    unfold splitRegistry at h
    cases hcut : cutFirst? '/' name with
    | none =>
      simp only [hcut, Prod.mk.injEq] at h
      obtain ⟨rfl, rfl⟩ := h
      exact .library (Text.cutFirst?_eq_none_iff.mp hcut)
    | some parts =>
      obtain ⟨first, rest⟩ := parts
      obtain ⟨rfl, hfirst⟩ := Text.cutFirst?_eq_some hcut
      by_cases hregistry : isRegistry first = true
      · simp only [hcut, hregistry, if_true, Prod.mk.injEq] at h
        obtain ⟨rfl, rfl⟩ := h
        exact .given hfirst (isRegistry_iff.mp hregistry)
      · simp only [hcut, hregistry, Bool.false_eq_true, if_false, Prod.mk.injEq] at h
        obtain ⟨rfl, rfl⟩ := h
        exact .path hfirst fun hsays => hregistry (isRegistry_iff.mpr hsays)
  · rintro (⟨hfirst, hsays⟩ | ⟨hfirst, hsays⟩ | hslash)
    · rw [splitRegistry, Text.cutFirst?_append hfirst]
      exact if_pos (isRegistry_iff.mpr hsays)
    · rw [splitRegistry, Text.cutFirst?_append hfirst]
      exact if_neg fun hregistry => hsays (isRegistry_iff.mp hregistry)
    · rw [splitRegistry, Text.cutFirst?_eq_none_iff.mpr hslash]
      rfl

/-! ### The cuts -/

variable {text before before' name name' registry repository : List Char}
  {tag tag' digest digest' : Option (List Char)} {reference : Reference}

/-- Two texts that are one with what follows the first mark are the same before it and after it. -/
theorem eq_of_marked {mark : Char} {part part' : Option (List Char)} (hbefore : mark ∉ before)
    (hbefore' : mark ∉ before') (h : before ++ marked mark part = before' ++ marked mark part') :
    before = before' ∧ part = part' := by
  cases part with
  | none =>
    cases part' with
    | none => simpa [marked] using h
    | some after' =>
      rw [marked, List.append_nil] at h
      exact absurd (h ▸ hbefore) (by simp [marked])
  | some after =>
    cases part' with
    | none =>
      rw [marked, marked, List.append_nil] at h
      exact absurd (h ▸ hbefore') (by simp)
    | some after' =>
      have hcuts := congrArg (cutFirst? mark) h
      rw [marked, marked, Text.cutFirst?_append hbefore, Text.cutFirst?_append hbefore',
        Option.some.injEq, Prod.mk.injEq] at hcuts
      exact ⟨hcuts.1, congrArg some hcuts.2⟩

/-- A text has a tag in one way only. -/
theorem HasTag.unique (h : HasTag text name tag) (h' : HasTag text name' tag') :
    name = name' ∧ tag = tag' := by
  have heq := h.eq.symm.trans h'.eq
  cases tag with
  | none =>
    cases tag' with
    | none => simpa [marked] using heq
    | some part' =>
      rw [marked, List.append_nil] at heq
      exact absurd (h.none_after rfl name' part' heq) (h'.last part' rfl).2
  | some part =>
    cases tag' with
    | none =>
      rw [marked, marked, List.append_nil] at heq
      exact absurd (h'.none_after rfl name part heq.symm) (h.last part rfl).2
    | some part' =>
      have hcuts := congrArg (cutLast? ':') heq
      rw [marked, marked, Text.cutLast?_append name (h.last part rfl).1,
        Text.cutLast?_append name' (h'.last part' rfl).1, Option.some.injEq,
        Prod.mk.injEq] at hcuts
      exact ⟨hcuts.1, congrArg some hcuts.2⟩

/-- A text falls into a name, a tag and a digest in one way only. -/
theorem FallsInto.unique (h : FallsInto text name tag digest)
    (h' : FallsInto text name' tag' digest') : name = name' ∧ tag = tag' ∧ digest = digest' := by
  obtain ⟨hbefore, hdigest⟩ := eq_of_marked h.first h'.first (h.eq.symm.trans h'.eq)
  obtain ⟨hname, htag⟩ := h.tagged.unique (hbefore ▸ h'.tagged)
  exact ⟨hname, htag, hdigest⟩

/-- A mark with none of its kind after some point stands before that point. -/
theorem mem_of_eq_append {point mark : Char} {front back after : List Char} (hne : mark ≠ point)
    (hback : mark ∉ back) (h : front ++ point :: back = before ++ mark :: after) :
    point ∈ after := by
  rcases List.append_eq_append_iff.mp h with ⟨between, -, hrest⟩ | ⟨between, -, hrest⟩
  · have hmem : mark ∈ point :: back := hrest ▸ by simp
    exact absurd hmem (by simp [hne, hback])
  · cases between with
    | nil => exact absurd (List.cons.inj hrest).1 hne
    | cons c between =>
      rw [(List.cons.inj hrest).2]
      simp

/-- What is cut off a text is its tag. -/
theorem hasTag_cutTag (text : List Char) : HasTag text (cutTag text).1 (cutTag text).2 := by
  -- Without a slash the whole text is looked at for a colon, and else what follows the last one.
  cases hslash : cutLast? '/' text with
  | none =>
    have hpath := Text.cutLast?_eq_none_iff.mp hslash
    cases hcolon : cutLast? ':' text with
    | none =>
      have hcut : cutTag text = (text, none) := by simp only [cutTag, hslash, hcolon]
      have hplain := Text.cutLast?_eq_none_iff.mp hcolon
      rw [hcut]
      refine ⟨(List.append_nil text).symm, by simp, fun _ before after h => ?_⟩
      have htext : text = before ++ ':' :: after := h
      exact absurd (htext ▸ by simp) hplain
    | some parts =>
      obtain ⟨name, tag⟩ := parts
      have hcut : cutTag text = (name, some tag) := by simp only [cutTag, hslash, hcolon]
      obtain ⟨htext, htag⟩ := Text.cutLast?_eq_some hcolon
      rw [hcut]
      refine ⟨htext, ?_, by simp⟩
      rintro part ⟨⟩
      exact ⟨htag, fun h => hpath (htext ▸ by simp [h])⟩
  | some parts =>
    obtain ⟨path, last⟩ := parts
    obtain ⟨htext, hlast⟩ := Text.cutLast?_eq_some hslash
    cases hcolon : cutLast? ':' last with
    | none =>
      have hcut : cutTag text = (text, none) := by simp only [cutTag, hslash, hcolon]
      have hplain := Text.cutLast?_eq_none_iff.mp hcolon
      rw [hcut]
      refine ⟨(List.append_nil text).symm, by simp, fun _ before after h => ?_⟩
      exact mem_of_eq_append (by decide) hplain (htext.symm.trans h)
    | some parts =>
      obtain ⟨name, tag⟩ := parts
      have hcut : cutTag text = (path ++ '/' :: name, some tag) := by
        simp only [cutTag, hslash, hcolon]
      obtain ⟨hparts, htag⟩ := Text.cutLast?_eq_some hcolon
      rw [hcut]
      refine ⟨by simp [htext, hparts, marked], ?_, by simp⟩
      rintro part ⟨⟩
      exact ⟨htag, fun h => hlast (hparts ▸ by simp [h])⟩

/-- Every text falls into a name, a tag and a digest. -/
theorem exists_fallsInto (text : List Char) :
    ∃ name tag digest, FallsInto text name tag digest := by
  obtain ⟨before, digest, htext, hfirst⟩ :
      ∃ before digest, text = before ++ marked '@' digest ∧ '@' ∉ before := by
    cases hcut : cutFirst? '@' text with
    | none =>
      exact ⟨text, none, (List.append_nil text).symm, Text.cutFirst?_eq_none_iff.mp hcut⟩
    | some parts =>
      obtain ⟨before, after⟩ := parts
      obtain ⟨htext, hfirst⟩ := Text.cutFirst?_eq_some hcut
      exact ⟨before, some after, htext, hfirst⟩
  have htag := hasTag_cutTag before
  refine ⟨(cutTag before).1, (cutTag before).2, digest, ?_, ?_, ?_⟩
  · rw [← htag.eq, ← htext]
  · rwa [← htag.eq]
  · rwa [← htag.eq]

/-- A text falls into its parts in just one way. -/
theorem existsUnique_fallsInto (text : List Char) :
    ∃! parts : List Char × Option (List Char) × Option (List Char),
      FallsInto text parts.1 parts.2.1 parts.2.2 := by
  obtain ⟨name, tag, digest, h⟩ := exists_fallsInto text
  refine ⟨(name, tag, digest), h, fun parts hparts => ?_⟩
  obtain ⟨hname, htag, hdigest⟩ := hparts.unique h
  exact Prod.ext hname (Prod.ext htag hdigest)

/-! ### The verdict -/

theorem splitDigest_of_fallsInto (h : FallsInto text name tag digest)
    (hdigest : ∀ part ∈ digest, IsDigestText part) :
    splitDigest text = .ok (name ++ marked ':' tag, digest) := by
  rw [splitDigest, h.eq]
  cases digest with
  | none => rw [marked, List.append_nil, Text.cutFirst?_eq_none_iff.mpr h.first]
  | some part =>
    rw [marked, Text.cutFirst?_append h.first]
    exact if_pos (isDigest_iff.mpr (hdigest part rfl))

theorem splitDigest_of_not_isDigestText {part : List Char}
    (h : FallsInto text name tag (some part)) (hpart : ¬ IsDigestText part) :
    splitDigest text = .error (.invalidDigest (String.ofList part)) := by
  rw [splitDigest, h.eq, marked, Text.cutFirst?_append h.first]
  exact if_neg fun hdigest => hpart (isDigest_iff.mp hdigest)

theorem HasTag.cutTag_eq (h : HasTag text name tag) : cutTag text = (name, tag) := by
  obtain ⟨hname, htag⟩ := (hasTag_cutTag text).unique h
  exact Prod.ext hname htag

theorem splitTag_of_hasTag (h : HasTag text name tag) (htag : ∀ part ∈ tag, IsTagText part) :
    splitTag text = .ok (name, tag) := by
  rw [splitTag, h.cutTag_eq]
  cases tag with
  | none => rfl
  | some part => exact if_pos (isTag_iff.mpr (htag part rfl))

theorem splitTag_of_not_isTagText {part : List Char} (h : HasTag text name (some part))
    (hpart : ¬ IsTagText part) : splitTag text = .error (.invalidTag (String.ofList part)) := by
  rw [splitTag, h.cutTag_eq]
  exact if_neg fun htag => hpart (isTag_iff.mp htag)

/-- A text is read part by part: the digest, the tag, and the name at last. -/
theorem ofChars_apply (hne : text ≠ []) :
    ofChars text = splitDigest text >>= fun parts => splitTag parts.1 >>= fun named =>
      if (splitAt '/' (splitRegistry named.1).2).all isPathComponent then
        .ok ⟨String.ofList (splitRegistry named.1).1, String.ofList (splitRegistry named.1).2,
          named.2.map String.ofList, parts.2.map String.ofList⟩
      else .error (.invalidRepository (String.ofList named.1)) := by
  rw [ofChars, if_neg (by simpa using hne)]
  rfl

/-- The empty name stands for nothing that is a repository. -/
theorem not_isRepository_of_nil (h : StandsFor [] registry repository) :
    ¬ IsRepository repository := by
  obtain ⟨-, rfl⟩ := Prod.mk.inj (splitRegistry_eq_iff.mpr h)
  rw [← isRepository_iff]
  decide

theorem Spells.ne_nil (h : Spells text reference) : text ≠ [] := by
  rintro rfl
  obtain ⟨name, hparts, hstands, hrepository, -⟩ := h
  obtain rfl : name = [] :=
    (List.append_eq_nil_iff.mp (List.append_eq_nil_iff.mp hparts.eq.symm).1).1
  exact not_isRepository_of_nil hstands hrepository

/-- A text with all its parts well formed is the reference that it spells. -/
theorem ofChars_of_spells (h : Spells text reference) : ofChars text = .ok reference := by
  have hne := h.ne_nil
  obtain ⟨name, hparts, hstands, hrepository, htag, hdigest⟩ := h
  have hread := splitDigest_of_fallsInto hparts (by simpa using hdigest)
  have hnamed := splitTag_of_hasTag hparts.tagged (by simpa using htag)
  rw [ofChars_apply hne]
  refine Action.step_bind_eq_ok.mpr ⟨_, hread, Action.step_bind_eq_ok.mpr ⟨_, hnamed, ?_⟩⟩
  rw [splitRegistry_eq_iff.mpr hstands, if_pos (isRepository_iff.mpr hrepository)]
  simp

/-- Where a text has no fault in its digest, the digest is well formed. -/
theorem FallsInto.digest_of_not_isFault (h : FallsInto (trim text) name tag digest)
    (hno : ∀ digest, ¬ IsFault text (.invalidDigest digest)) :
    ∀ part ∈ digest, IsDigestText part := by
  rintro part rfl
  by_contra hpart
  exact hno (String.ofList part)
    ⟨by rwa [String.toList_ofList], name, tag, by rwa [String.toList_ofList]⟩

/-- Where a text has no fault in its tag, the tag is well formed. -/
theorem FallsInto.tag_of_not_isFault (h : FallsInto (trim text) name tag digest)
    (hno : ∀ tag, ¬ IsFault text (.invalidTag tag)) : ∀ part ∈ tag, IsTagText part := by
  rintro part rfl
  by_contra hpart
  exact hno (String.ofList part)
    ⟨by rwa [String.toList_ofList], name, digest, by rwa [String.toList_ofList]⟩

/-- A text that falls into well-formed parts has no fault in its digest. -/
theorem FallsInto.not_isFault_digest (h : FallsInto (trim text) name tag digest)
    (hdigest : ∀ part ∈ digest, IsDigestText part) (other : String) :
    ¬ IsFault text (.invalidDigest other) := by
  rintro ⟨hother, name', tag', hparts⟩
  obtain ⟨-, -, rfl⟩ := h.unique hparts
  exact hother (hdigest _ rfl)

/-- A text that falls into well-formed parts has no fault in its tag. -/
theorem FallsInto.not_isFault_tag (h : FallsInto (trim text) name tag digest)
    (htag : ∀ part ∈ tag, IsTagText part) (other : String) :
    ¬ IsFault text (.invalidTag other) := by
  rintro ⟨hother, name', digest', hparts⟩
  obtain ⟨-, rfl, -⟩ := h.unique hparts
  exact hother (htag _ rfl)

/-- The first fault of a text is the verdict on it. -/
theorem parse_of_isFirstFault {text : String} {error : ReferenceError}
    (h : IsFirstFault text.toList error) : parse text = .error error := by
  obtain ⟨hfault, hfirst⟩ := h
  have hearlier (other : ReferenceError) (hlt : faultOrder other < faultOrder error) :
      ¬ IsFault text.toList other :=
    fun hother => absurd (hfirst other hother) (by omega)
  have hne (hlt : 0 < faultOrder error) : trim text.toList ≠ [] :=
    fun hnil => hearlier .empty hlt (Text.trim_eq_nil_iff.mp hnil)
  -- The text is read up to the part with the fault; no fault before it keeps it from getting there.
  cases error with
  | empty =>
    rw [parse, Text.trim_eq_nil_iff.mpr hfault]
    rfl
  | invalidDigest digest =>
    obtain ⟨hdigest, name, tag, hparts⟩ := hfault
    have hread := splitDigest_of_not_isDigestText hparts hdigest
    rw [String.ofList_toList] at hread
    rw [parse, ofChars_apply (hne (by simp [faultOrder]))]
    exact Action.step_bind_eq_error.mpr (.inl hread)
  | invalidTag tag =>
    obtain ⟨htag, name, digest, hparts⟩ := hfault
    have hdigest := hparts.digest_of_not_isFault fun digest =>
      hearlier (.invalidDigest digest) (by simp [faultOrder])
    have hnamed := splitTag_of_not_isTagText hparts.tagged htag
    rw [String.ofList_toList] at hnamed
    rw [parse, ofChars_apply (hne (by simp [faultOrder]))]
    exact Action.step_bind_eq_error.mpr (.inr ⟨_, splitDigest_of_fallsInto hparts hdigest,
      Action.step_bind_eq_error.mpr (.inl hnamed)⟩)
  | invalidRepository name =>
    obtain ⟨tag, digest, hparts, registry, repository, hstands, hrepository⟩ := hfault
    have hdigest := hparts.digest_of_not_isFault fun digest =>
      hearlier (.invalidDigest digest) (by simp [faultOrder])
    have htag := hparts.tag_of_not_isFault fun tag =>
      hearlier (.invalidTag tag) (by simp [faultOrder])
    rw [parse, ofChars_apply (hne (by simp [faultOrder]))]
    refine Action.step_bind_eq_error.mpr (.inr ⟨_, splitDigest_of_fallsInto hparts hdigest,
      Action.step_bind_eq_error.mpr (.inr ⟨_, splitTag_of_hasTag hparts.tagged htag, ?_⟩)⟩)
    rw [splitRegistry_eq_iff.mpr hstands, if_neg fun h => hrepository (isRepository_iff.mp h),
      String.ofList_toList]

/-- Every text is a reference or has a first fault. -/
theorem spells_or_isFirstFault (text : List Char) :
    (∃ reference, Spells (trim text) reference) ∨ ∃ error, IsFirstFault text error := by
  by_cases hblank : trim text = []
  · exact .inr ⟨.empty, Text.trim_eq_nil_iff.mp hblank, fun other _ => Nat.zero_le _⟩
  have hempty : ¬ IsFault text .empty := fun h => hblank (Text.trim_eq_nil_iff.mpr h)
  obtain ⟨name, tag, digest, hparts⟩ := exists_fallsInto (trim text)
  -- The parts in the order of their faults: a part that is well formed leaves no fault of its kind.
  by_cases hdigest : ∀ part ∈ digest, IsDigestText part
  case neg =>
    push Not at hdigest
    obtain ⟨part, rfl, hpart⟩ := hdigest
    refine .inr ⟨.invalidDigest (String.ofList part),
      ⟨by rwa [String.toList_ofList], name, tag, by rwa [String.toList_ofList]⟩, fun other h => ?_⟩
    cases other with
    | empty => exact absurd h hempty
    | _ => simp [faultOrder]
  have hnoDigest := hparts.not_isFault_digest hdigest
  by_cases htag : ∀ part ∈ tag, IsTagText part
  case neg =>
    push Not at htag
    obtain ⟨part, rfl, hpart⟩ := htag
    refine .inr ⟨.invalidTag (String.ofList part),
      ⟨by rwa [String.toList_ofList], name, digest, by rwa [String.toList_ofList]⟩,
      fun other h => ?_⟩
    cases other with
    | empty => exact absurd h hempty
    | invalidDigest other => exact absurd h (hnoDigest other)
    | _ => simp [faultOrder]
  have hnoTag := hparts.not_isFault_tag htag
  have hstands := splitRegistry_eq_iff.mp (Prod.eta (splitRegistry name)).symm
  by_cases hrepository : IsRepository (splitRegistry name).2
  case neg =>
    refine .inr ⟨.invalidRepository (String.ofList name), ⟨tag, digest, ?_⟩, fun other h => ?_⟩
    · rw [String.toList_ofList]
      exact ⟨hparts, _, _, hstands, hrepository⟩
    · cases other with
      | empty => exact absurd h hempty
      | invalidDigest other => exact absurd h (hnoDigest other)
      | invalidTag other => exact absurd h (hnoTag other)
      | invalidRepository _ => exact le_refl _
  refine .inl ⟨⟨String.ofList (splitRegistry name).1, String.ofList (splitRegistry name).2,
    tag.map String.ofList, digest.map String.ofList⟩, name, ?_⟩
  simpa [Function.comp_def] using ⟨hparts, hstands, hrepository, htag, hdigest⟩

/-- A text reads as a reference exactly when the grammar spells it. -/
theorem parse_eq_ok_iff {text : String} {reference : Reference} :
    parse text = .ok reference ↔ Spells (trim text.toList) reference := by
  refine ⟨fun hparse => ?_, ofChars_of_spells⟩
  rcases spells_or_isFirstFault text.toList with ⟨other, hspells⟩ | ⟨error, hfault⟩
  · obtain rfl := Except.ok.inj (hparse.symm.trans (ofChars_of_spells hspells))
    exact hspells
  · exact absurd (hparse.symm.trans (parse_of_isFirstFault hfault)) (by simp)

/-- A text, without the blanks at its ends, falls into a name, a tag and a digest in just one way.
It is read as a reference exactly when the grammar spells it, and as the one reference that it
spells. The verdict on any other text is its first fault: that nothing is left of it, or else that
of the first part which is not well formed. -/
theorem parse_verdict (text : String) :
    (∃! parts : List Char × Option (List Char) × Option (List Char),
      FallsInto (trim text.toList) parts.1 parts.2.1 parts.2.2) ∧
    (∀ reference, parse text = .ok reference ↔ Spells (trim text.toList) reference) ∧
    (∀ reference other, Spells (trim text.toList) reference → Spells (trim text.toList) other →
      reference = other) ∧
    ∀ error, parse text = .error error ↔ IsFirstFault text.toList error := by
  refine ⟨existsUnique_fallsInto _, fun _ => parse_eq_ok_iff, fun reference other h hother => ?_,
    fun error => ?_⟩
  · exact Except.ok.inj ((ofChars_of_spells h).symm.trans (ofChars_of_spells hother))
  · refine ⟨fun hparse => ?_, parse_of_isFirstFault⟩
    rcases spells_or_isFirstFault text.toList with ⟨reference, hspells⟩ | ⟨first, hfault⟩
    · exact absurd (hparse.symm.trans (ofChars_of_spells hspells)) (by simp)
    · obtain rfl := Except.error.inj (hparse.symm.trans (parse_of_isFirstFault hfault))
      exact hfault

/-- A port is no tag, and of two faults the one in the digest is told. -/
theorem parse_verdict_of_port :
    Spells (trim " localhost:5000/app:v1 ".toList) ⟨"localhost:5000", "app", some "v1", none⟩ ∧
      (∀ other, Spells (trim " localhost:5000/app:v1 ".toList) other →
        ⟨"localhost:5000", "app", some "v1", none⟩ = other) ∧
      IsFirstFault "quay.io/APP:-@sha256:xyz".toList (.invalidDigest "sha256:xyz") := by
  have hspells := ((parse_verdict " localhost:5000/app:v1 ").2.1
    ⟨"localhost:5000", "app", some "v1", none⟩).mp (by decide +kernel)
  have hfault := ((parse_verdict "quay.io/APP:-@sha256:xyz").2.2.2
    (.invalidDigest "sha256:xyz")).mp (by decide +kernel)
  exact ⟨hspells, fun other h => (parse_verdict _).2.2.1 _ other hspells h, hfault⟩

end Reference
end ContainerCert.Image
