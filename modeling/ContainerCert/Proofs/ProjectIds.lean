import ContainerCert.ProjectId

/-!
# Old and present spellings of project identifiers

An identifier is accepted exactly when it has one hyphen at most. In its present spelling it lacks
the mark of the old one, if it starts with that, and else is as it was.
-/

namespace ContainerCert.ProjectId

variable {id : String} {first second rest : List Char}

/-- What an identifier in the old spelling starts with. -/
def legacyMark : List Char :=
  legacyPart ++ ['-']

/-- Whether an identifier is in the old spelling. -/
def IsLegacy (id : String) : Prop :=
  legacyMark <+: id.toList

instance : DecidablePred IsLegacy := fun id =>
  inferInstanceAs (Decidable (legacyMark <+: id.toList))

/-- The present spelling of an identifier. -/
def present (id : String) : String :=
  if IsLegacy id then String.ofList (id.toList.drop legacyMark.length) else id

theorem isLegacy_iff : IsLegacy id ↔ ∃ rest, id.toList = legacyPart ++ '-' :: rest := by
  constructor
  · rintro ⟨rest, hrest⟩
    exact ⟨rest, by rw [← hrest, legacyMark, List.append_assoc]; rfl⟩
  · rintro ⟨rest, hrest⟩
    exact ⟨rest, by rw [hrest, legacyMark, List.append_assoc]; rfl⟩

theorem present_of_legacy (h : id.toList = legacyPart ++ '-' :: rest) :
    present id = String.ofList rest := by
  rw [present, if_pos (isLegacy_iff.mpr ⟨rest, h⟩), h]
  rfl

/-- The present spelling is another text exactly when the identifier is in the old one. -/
theorem present_ne_iff : present id ≠ id ↔ IsLegacy id := by
  constructor
  · intro h
    by_cases hlegacy : IsLegacy id
    · exact hlegacy
    · exact absurd (if_neg hlegacy) h
  · intro hlegacy heq
    obtain ⟨rest, hrest⟩ := isLegacy_iff.mp hlegacy
    rw [present_of_legacy hrest] at heq
    have hlength : rest.length = id.toList.length := by rw [← heq, String.toList_ofList]
    rw [hrest, List.length_append, List.length_cons] at hlength
    omega

/-- Two parts with a hyphen between them are in the old spelling when the first part says so. -/
theorem isLegacy_iff_of_parts (h : id.toList = first ++ '-' :: second) (hfirst : '-' ∉ first) :
    IsLegacy id ↔ first = legacyPart := by
  constructor
  · intro hlegacy
    obtain ⟨rest, hrest⟩ := isLegacy_iff.mp hlegacy
    have hpart : '-' ∉ legacyPart := by decide
    have hparts : Text.splitAt '-' (first ++ '-' :: second) =
        Text.splitAt '-' (legacyPart ++ '-' :: rest) := by rw [← h, hrest]
    rw [Text.splitAt_append, Text.splitAt_append, Text.splitAt_of_not_mem hfirst,
      Text.splitAt_of_not_mem hpart] at hparts
    exact (List.cons.inj hparts).1
  · rintro rfl
    exact isLegacy_iff.mpr ⟨second, h⟩

/-- An identifier is accepted when it has one hyphen at most, and gets its present spelling. -/
theorem normalize?_eq (id : String) :
    normalize? id = if 1 < id.toList.count '-' then none else some (present id) := by
  have hlength := Text.length_splitAt '-' id.toList
  have hjoin := Text.joinWith_splitAt '-' id.toList
  have hparts := fun part => @Text.not_mem_of_mem_splitAt '-' id.toList part
  unfold normalize?
  rcases hs : Text.splitAt '-' id.toList with _ | ⟨first, _ | ⟨second, _ | ⟨third, others⟩⟩⟩
  · exact absurd hs (Text.splitAt_ne_nil '-' id.toList)
  · rw [hs] at hlength
    have hcount : id.toList.count '-' = 0 := by simpa using hlength.symm
    have hlegacy : ¬ IsLegacy id := by
      intro hlegacy
      obtain ⟨rest, hrest⟩ := isLegacy_iff.mp hlegacy
      exact List.count_eq_zero.mp hcount (by simp [hrest])
    rw [if_neg (by omega), present, if_neg hlegacy]
  · rw [hs] at hlength hjoin hparts
    have hcount : id.toList.count '-' = 1 := by simpa using hlength.symm
    have htext : id.toList = first ++ '-' :: second := hjoin.symm
    have hlegacy := isLegacy_iff_of_parts htext (hparts first (by simp))
    rw [if_neg (by omega)]
    by_cases hfirst : first = legacyPart
    · subst hfirst
      simp only [if_true, present_of_legacy htext]
    · simp only [if_neg hfirst, present, if_neg (fun h => hfirst (hlegacy.mp h))]
  · rw [hs] at hlength
    simp only [List.length_cons] at hlength
    rw [if_pos (by omega)]

/-- An accepted identifier stands for itself, or is the old spelling of a single part. -/
theorem eq_of_normalize? {found : String} (h : normalize? id = some found) :
    found = id ∨ id.toList = legacyPart ++ '-' :: found.toList ∧ '-' ∉ found.toList := by
  rw [normalize?_eq] at h
  split at h
  · cases h
  · next hcount =>
    obtain rfl := Option.some.inj h
    by_cases hlegacy : IsLegacy id
    · obtain ⟨rest, hrest⟩ := isLegacy_iff.mp hlegacy
      rw [present_of_legacy hrest, String.toList_ofList]
      refine Or.inr ⟨hrest, List.count_eq_zero.mp ?_⟩
      rw [hrest, List.count_append, List.count_cons_self] at hcount
      omega
    · exact Or.inl (if_neg hlegacy)

end ContainerCert.ProjectId
