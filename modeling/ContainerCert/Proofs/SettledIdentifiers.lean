import ContainerCert.Proofs.Requests

/-!
# Identifiers that are settled

An identifier with one hyphen at most is accepted, and what it is replaced by is replaced by itself.
In the settings it may come from any source, or from none. Only where its spelling is old does its
present spelling become an override, which then hides the source that it came from; nothing else is
touched, so to check the settings once more changes nothing.
-/

namespace ContainerCert

open Config

namespace ProjectId

variable {id found rest : String}

/-- An identifier is the old spelling of a text without hyphens. -/
def IsOldSpelling (id rest : String) : Prop :=
  id = "ospid-" ++ rest ∧ '-' ∉ rest.toList

theorem isOldSpelling_iff :
    IsOldSpelling id rest ↔ id.toList = legacyPart ++ '-' :: rest.toList ∧ '-' ∉ rest.toList := by
  have htext : ("ospid-" ++ rest).toList = legacyPart ++ '-' :: rest.toList := by
    rw [String.toList_append]
    rfl
  rw [IsOldSpelling, ← String.toList_inj, htext]

theorem exists_normalize?_iff :
    (∃ found, normalize? id = some found) ↔ id.toList.count '-' ≤ 1 := by
  rw [normalize?_eq]
  split
  · next hmany => simp [hmany]
  · next hfew => simpa using hfew

theorem normalize?_of_isOldSpelling (h : IsOldSpelling id rest) : normalize? id = some rest := by
  obtain ⟨htext, hrest⟩ := isOldSpelling_iff.mp h
  have hpart : legacyPart.count '-' = 0 := by decide
  have hcount : id.toList.count '-' = 1 := by
    rw [htext, List.count_append, List.count_cons_self, List.count_eq_zero.mpr hrest, hpart]
  rw [normalize?_eq, if_neg (by omega), present_of_legacy htext, String.ofList_toList]

/-- An accepted identifier is replaced by another text exactly where its spelling is old. -/
theorem ne_iff_of_normalize? (h : normalize? id = some found) :
    found ≠ id ↔ ∃ rest, IsOldSpelling id rest := by
  constructor
  · intro hne
    obtain heq | hold := eq_of_normalize? h
    · exact absurd heq hne
    · exact ⟨found, isOldSpelling_iff.mpr hold⟩
  · rintro ⟨rest, hold⟩ heq
    obtain rfl : found = rest := Option.some.inj (h.symm.trans (normalize?_of_isOldSpelling hold))
    have hlength := congrArg List.length (isOldSpelling_iff.mp hold).1
    rw [heq, List.length_append, List.length_cons] at hlength
    omega

/-- A text without hyphens stands for itself. -/
theorem normalize?_of_not_mem (h : '-' ∉ id.toList) : normalize? id = some id := by
  have hcount : id.toList.count '-' ≤ 1 := by
    rw [List.count_eq_zero.mpr h]
    exact Nat.zero_le 1
  obtain ⟨found, hfound⟩ := exists_normalize?_iff.mpr hcount
  obtain rfl | ⟨hid, -⟩ := eq_of_normalize? hfound
  · exact hfound
  · exact absurd (by simp [hid]) h

/-- What an identifier is replaced by is replaced by itself. -/
theorem normalize?_normalize? (h : normalize? id = some found) :
    normalize? found = some found := by
  obtain rfl | ⟨-, hfound⟩ := eq_of_normalize? h
  · exact h
  · exact normalize?_of_not_mem hfound

end ProjectId

theorem Config.Settings.getText_of_override {settings : Settings} {key : Key} {value : Value}
    (h : settings.given .override key = some value) : settings.getText key = value.asText := by
  simp [getText, get, Source.all, h]

namespace Validation

open ProjectId (normalize? IsOldSpelling)

variable {settings after : Settings} {cause : ValidationError}

/-- The check of the identifier goes through where it is accepted, and forces another text. -/
theorem projectId_eq_ok_iff : projectId settings = (.ok (), after) ↔
    ∃ found, normalize? (settings.getText .projectId) = some found ∧
      after = if found ≠ settings.getText .projectId then
        settings.force .projectId (.text found) else settings := by
  rw [projectId_apply]
  cases normalize? (settings.getText .projectId) with
  | none => simp
  | some found => simp [eq_comm]

theorem projectId_eq_error_iff : projectId settings = (.error cause, after) ↔
    normalize? (settings.getText .projectId) = none ∧
      cause = .malformedProjectId (settings.getText .projectId) ∧ after = settings := by
  rw [projectId_apply]
  cases normalize? (settings.getText .projectId) with
  | none => simp [eq_comm]
  | some found => simp

/-- The identifier that is resolved after the check is the one that was accepted. -/
theorem normalize?_getText (h : projectId settings = (.ok (), after)) :
    normalize? (settings.getText .projectId) = some (after.getText .projectId) := by
  obtain ⟨found, hfound, rfl⟩ := projectId_eq_ok_iff.mp h
  split
  · rw [Settings.getText_force, if_pos rfl, hfound]
    rfl
  · next hsame => rw [hfound, not_not.mp hsame]

/-- To check the identifier once more changes nothing. -/
theorem projectId_again (h : projectId settings = (.ok (), after)) :
    projectId after = (.ok (), after) :=
  projectId_eq_ok_iff.mpr ⟨after.getText .projectId,
    ProjectId.normalize?_normalize? (normalize?_getText h), by simp⟩

/-- Nothing but the override of the identifier is touched. -/
theorem given_of_projectId (h : projectId settings = (.ok (), after)) {source : Source} {key : Key}
    (hother : (source, key) ≠ (.override, .projectId)) :
    after.given source key = settings.given source key := by
  obtain ⟨found, -, rfl⟩ := projectId_eq_ok_iff.mp h
  split
  · rw [Settings.force, Settings.put_given, if_neg (by simpa using hother)]
  · rfl

/-- The override of the identifier is new where the spelling was old, and else nothing is new. -/
theorem override_of_projectId (h : projectId settings = (.ok (), after)) :
    ((∃ rest, IsOldSpelling (settings.getText .projectId) rest) ∧
      after.given .override .projectId = some (.text (after.getText .projectId)) ∧
      settings.given .override .projectId ≠ some (.text (after.getText .projectId))) ∨
    (¬ ∃ rest, IsOldSpelling (settings.getText .projectId) rest) ∧ after = settings := by
  obtain ⟨found, hfound, hafter⟩ := projectId_eq_ok_iff.mp h
  have hgot : after.getText .projectId = found :=
    Option.some.inj ((normalize?_getText h).symm.trans hfound)
  rw [hgot, ← ProjectId.ne_iff_of_normalize? hfound]
  by_cases hsame : found = settings.getText .projectId
  · exact .inr ⟨not_not.mpr hsame, by rw [hafter, if_neg (not_not.mpr hsame)]⟩
  · rw [if_pos hsame] at hafter
    subst hafter
    refine .inl ⟨hsame, rfl, fun hgiven => hsame ?_⟩
    -- An override decides its key, so the identifier would have had its present spelling.
    rw [Settings.getText_of_override hgiven]
    rfl

/-- An identifier is accepted exactly where it has one hyphen at most. It stays as it is, but for the
old spelling of a text without hyphens, which gives the text; and what it becomes stays as it is.
For all settings, the check of the identifier goes through exactly where it is accepted. The
identifier that is resolved is then the accepted one, and a second check goes through and changes
nothing. There is a new entry among the overrides exactly where the spelling was old, also where the
old one was itself an override, and a first one for this key where it was not; otherwise nothing
changes at all, and in no case does anything else. A check that fails changes nothing. -/
theorem projectId_settles :
    (∀ id : String, ((∃ found, normalize? id = some found) ↔ id.toList.count '-' ≤ 1) ∧
      (∀ rest, IsOldSpelling id rest → normalize? id = some rest) ∧
      ∀ found, normalize? id = some found →
        ((¬ ∃ rest, IsOldSpelling id rest) → found = id) ∧ normalize? found = some found) ∧
    ∀ settings : Settings,
      ((∃ after, projectId settings = (.ok (), after)) ↔
        (settings.getText .projectId).toList.count '-' ≤ 1) ∧
      (∀ after, projectId settings = (.ok (), after) →
        normalize? (settings.getText .projectId) = some (after.getText .projectId) ∧
        projectId after = (.ok (), after) ∧
        ((∃ value, after.given .override .projectId = some value ∧
            settings.given .override .projectId ≠ some value) ↔
          ∃ rest, IsOldSpelling (settings.getText .projectId) rest) ∧
        (settings.given .override .projectId = none →
          ((∃ value, after.given .override .projectId = some value) ↔
            ∃ rest, IsOldSpelling (settings.getText .projectId) rest)) ∧
        ((¬ ∃ rest, IsOldSpelling (settings.getText .projectId) rest) → after = settings) ∧
        ∀ source key, (source, key) ≠ (.override, .projectId) →
          after.given source key = settings.given source key) ∧
      ∀ cause after, projectId settings = (.error cause, after) →
        cause = .malformedProjectId (settings.getText .projectId) ∧ after = settings := by
  refine ⟨fun id => ⟨ProjectId.exists_normalize?_iff,
    fun rest => ProjectId.normalize?_of_isOldSpelling, fun found h => ⟨fun hnew => ?_,
      ProjectId.normalize?_normalize? h⟩⟩, fun settings => ⟨?_, fun after h => ?_,
    fun cause after h => (projectId_eq_error_iff.mp h).2⟩⟩
  · by_contra hne
    exact hnew ((ProjectId.ne_iff_of_normalize? h).mp hne)
  · rw [← ProjectId.exists_normalize?_iff]
    constructor
    · rintro ⟨after, h⟩
      exact ⟨_, normalize?_getText h⟩
    · rintro ⟨found, hfound⟩
      exact ⟨_, projectId_eq_ok_iff.mpr ⟨found, hfound, rfl⟩⟩
  · refine ⟨normalize?_getText h, projectId_again h, ?_, fun hnone => ?_, fun hnew => ?_,
      fun source key => given_of_projectId h⟩
    · obtain ⟨hold, hgiven, hfresh⟩ | ⟨hnew, rfl⟩ := override_of_projectId h
      · exact iff_of_true ⟨_, hgiven, hfresh⟩ hold
      · exact iff_of_false (fun ⟨_, hgiven, hfresh⟩ => hfresh hgiven) hnew
    · obtain ⟨hold, hgiven, -⟩ | ⟨hnew, rfl⟩ := override_of_projectId h
      · exact iff_of_true ⟨_, hgiven⟩ hold
      · exact iff_of_false (by simp [hnone]) hnew
    · obtain ⟨hold, -⟩ | ⟨-, hsame⟩ := override_of_projectId h
      · exact absurd hold hnew
      · exact hsame

end Validation

end ContainerCert
