import ContainerCert.Proofs.ReferenceGrammar

/-!
# Displayed references read back

A reference is displayed with its registry, also where the text it was read from leaves that out:
as this text, with what it leaves out in front. What is put in front has none of the marks that
decide where a text is cut, and so the displayed text falls into the same parts.
-/

namespace ContainerCert.Text

/-- A text without blanks at its ends has none when other characters are put in front of it. -/
theorem IsTrimmed.prepend {front text : List Char} (h : IsTrimmed text) (hne : text ≠ [])
    (hfront : ∀ c ∈ front.head?, isBlank c = false) : IsTrimmed (front ++ text) := by
  constructor
  · intro c hc
    rw [List.head?_append, Option.mem_def, Option.or_eq_some_iff] at hc
    rcases hc with hc | ⟨-, hc⟩
    · exact hfront c hc
    · exact h.1 c hc
  · intro c hc
    rw [List.getLast?_append_of_ne_nil front hne] at hc
    exact h.2 c hc

end ContainerCert.Text

namespace ContainerCert.Image.Reference

open Text (trim isBlank IsTrimmed)

variable {text front name registry repository : List Char} {tag digest : Option (List Char)}
  {reference : Reference}

/-- What is put in front of a text that leaves out the registry, or the library too. -/
def fronts : List (List Char) :=
  [[], "docker.io/".toList, "docker.io/library/".toList]

/-- Nothing that is put in front has a mark in it at which a text is cut, or starts with a blank. -/
theorem plain_of_mem_fronts (h : front ∈ fronts) :
    ':' ∉ front ∧ '@' ∉ front ∧ ∀ c ∈ front.head?, isBlank c = false := by
  simp only [fronts, List.mem_cons, List.not_mem_nil, or_false] at h
  rcases h with rfl | rfl | rfl <;> simp [isBlank]

/-- A repository with its registry in front is a name that stands for them. -/
theorem StandsFor.full (h : StandsFor name registry repository) :
    StandsFor (registry ++ '/' :: repository) registry repository := by
  cases h with
  | given hslash hsays => exact .given hslash hsays
  | path | library => exact .given (by decide) (Or.inl (by decide))

/-- A repository with its registry in front is the name, with what it leaves out in front. -/
theorem StandsFor.exists_front (h : StandsFor name registry repository) :
    ∃ front ∈ fronts, registry ++ '/' :: repository = front ++ name := by
  cases h with
  | given => exact ⟨[], by simp [fronts], rfl⟩
  | path => exact ⟨"docker.io/".toList, by simp [fronts], rfl⟩
  | library => exact ⟨"docker.io/library/".toList, by simp [fronts], rfl⟩

/-- A text with something in front of it falls into the same parts, but for what then comes first in
the name. -/
theorem FallsInto.prepend (h : FallsInto text name tag digest) (hcolon : ':' ∉ front)
    (hat : '@' ∉ front) : FallsInto (front ++ text) (front ++ name) tag digest := by
  refine ⟨by simp [h.eq], ?_, by simp, h.tagged.last, fun hnone before after heq => ?_⟩
  · rw [List.append_assoc, List.mem_append, not_or]
    exact ⟨hat, h.first⟩
  · rcases List.append_eq_append_iff.mp heq with ⟨between, -, hname⟩ | ⟨between, hfront, hname⟩
    · exact h.tagged.none_after hnone between after hname
    · cases between with
      | nil => exact h.tagged.none_after hnone [] after hname.symm
      | cons c between =>
        obtain ⟨rfl, -⟩ := List.cons.inj hname
        exact absurd (hfront ▸ by simp) hcolon

theorem toList_display (reference : Reference) :
    reference.display.toList = reference.registry.toList ++ '/' :: reference.repository.toList ++
      marked ':' (reference.tag.map String.toList) ++
      marked '@' (reference.digest.map String.toList) := by
  rcases reference with ⟨registry, repository, _ | tag, _ | digest⟩ <;> simp [display, marked]

/-- The display of a reference is the text that spells it, with what this leaves out in front, and
spells it too. -/
theorem Spells.display (h : Spells text reference) :
    ∃ front ∈ fronts, reference.display.toList = front ++ text ∧
      Spells (front ++ text) reference := by
  obtain ⟨name, hparts, hstands, hwell⟩ := h
  obtain ⟨front, hfront, hname⟩ := hstands.exists_front
  obtain ⟨hcolon, hat, -⟩ := plain_of_mem_fronts hfront
  refine ⟨front, hfront, ?_, front ++ name, hparts.prepend hcolon hat, ?_, hwell⟩
  · rw [toList_display, hname, hparts.eq]
    simp only [List.append_assoc]
  · rw [← hname]
    exact hstands.full

/-- A reference that was read reads back from its display. -/
theorem parse_display {text : String} (h : parse text = .ok reference) :
    parse reference.display = .ok reference := by
  have hspells := parse_eq_ok_iff.mp h
  obtain ⟨front, hfront, hdisplay, hagain⟩ := hspells.display
  have htrimmed : IsTrimmed (front ++ trim text.toList) :=
    (Text.isTrimmed_trim _).prepend hspells.ne_nil (plain_of_mem_fronts hfront).2.2
  rw [parse_eq_ok_iff, hdisplay, Text.trim_eq_self htrimmed]
  exact hagain

/-- A text has a tag or a digest where it has an at sign, or a colon after its last slash. -/
theorem FallsInto.isSome_iff (h : FallsInto text name tag digest) :
    (digest.isSome || tag.isSome) = true ↔
      '@' ∈ text ∨ ∃ before after, text = before ++ ':' :: after ∧ '/' ∉ after := by
  have htext := h.eq
  cases digest with
  | some part =>
    have hat : '@' ∈ text := htext ▸ by simp [marked]
    exact iff_of_true rfl (.inl hat)
  | none =>
    rw [marked, List.append_nil] at htext
    have hat : '@' ∉ text := htext ▸ h.first
    cases tag with
    | some part => exact iff_of_true rfl (.inr ⟨name, part, htext, (h.tagged.last part rfl).2⟩)
    | none =>
      rw [marked, List.append_nil] at htext
      refine iff_of_false (by simp) ?_
      rintro (hmem | ⟨before, after, hcolon, hslash⟩)
      · exact hat hmem
      · exact hslash (h.tagged.none_after rfl before after (htext ▸ hcolon))

/-- A reference that was read is read again from its display, with all its parts. So references that
were read are told apart by their displays, and a display is displayed as it is. They are pinned
where the text that was read, without the blanks at its ends, has an at sign or has a colon after
its last slash. -/
theorem reference_of_display (text : String) (reference : Reference)
    (h : parse text = .ok reference) :
    parse reference.display = .ok reference ∧
      (∀ other known, parse other = .ok known → known.display = reference.display →
        known = reference) ∧
      (∀ shown, (parse text).map display = .ok shown → (parse shown).map display = .ok shown) ∧
      (reference.isPinned = true ↔ '@' ∈ trim text.toList ∨
        ∃ before after, trim text.toList = before ++ ':' :: after ∧ '/' ∉ after) := by
  have hread := parse_display h
  refine ⟨hread, fun other known hknown hsame => ?_, fun shown hshown => ?_, ?_⟩
  · have hagain := parse_display hknown
    rw [hsame] at hagain
    exact Except.ok.inj (hagain.symm.trans hread)
  · rw [h] at hshown
    obtain rfl := Except.ok.inj hshown
    rw [hread]
    rfl
  · obtain ⟨name, hparts, -⟩ := parse_eq_ok_iff.mp h
    have hpinned := hparts.isSome_iff
    rwa [Option.isSome_map, Option.isSome_map] at hpinned

/-- A name of the library reads back from a display that gives the registry. -/
theorem reference_of_display_of_library :
    let busybox : Reference := ⟨"docker.io", "library/busybox", some "1", none⟩
    parse " busybox:1 " = .ok busybox ∧ parse "docker.io/library/busybox:1" = .ok busybox ∧
      (parse "docker.io/library/busybox:1").map display = .ok "docker.io/library/busybox:1" ∧
      busybox.isPinned = true := by
  intro busybox
  have hread : parse " busybox:1 " = .ok busybox := by decide +kernel
  obtain ⟨hagain, -, hshown, hpinned⟩ := reference_of_display " busybox:1 " busybox hread
  refine ⟨hread, hagain, hshown _ (by rw [hread]; rfl), hpinned.mpr (.inr ?_)⟩
  exact ⟨"busybox".toList, "1".toList, by decide +kernel, by decide⟩

end ContainerCert.Image.Reference
