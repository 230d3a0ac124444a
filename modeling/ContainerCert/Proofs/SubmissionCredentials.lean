import ContainerCert.Proofs.Requests

/-!
# The credentials of an accepted submission

A request for a submission is accepted with both credentials set by some source, none typed as an
empty text, and none in the shape of a flag. The run then submits. Its credentials are not empty,
with two exceptions that the checks let through: an empty text that was not typed, and an
identifier in the old spelling whose second part is empty.
-/

namespace ContainerCert.Validation

open Config Program

variable {flags : Flags} {settings : Settings}

/-- An empty credential that is not looked into: it was not typed, and the source that decides is
one that may give the empty text. -/
def IsUnseenEmpty (flags : Flags) (settings : Settings) (credential : Credential) : Prop :=
  flags.changed credential.flag = false ∧
    ∃ source, (source = .flag ∨ source = .file) ∧
      settings.source? credential.key = some source ∧
      settings.given source credential.key = some (.text "")

/-- What a submission has: each credential is set, typed only if it is not empty, and has not the
shape of a flag. -/
theorem prerequisites_eq_ok_iff :
    prerequisites flags settings = .ok () ↔ ∀ credential,
      isMissing flags settings credential = false ∧ isBlank flags settings credential = false ∧
        looksLikeFlag settings credential = false := by
  unfold prerequisites
  cases hmissing : Credential.all.find? (isMissing flags settings) with
  | some credential =>
    simp only [reduceCtorEq, false_iff, not_forall]
    exact ⟨credential, fun h => by simp [List.find?_some hmissing] at h⟩
  | none =>
    cases hblank : Credential.all.find? (isBlank flags settings) with
    | some credential =>
      simp only [reduceCtorEq, false_iff, not_forall]
      exact ⟨credential, fun h => by simp [List.find?_some hblank] at h⟩
    | none =>
      rw [List.find?_eq_none] at hmissing hblank
      by_cases hflag : Credential.all.any (looksLikeFlag settings) = true
      · obtain ⟨credential, -, hlooks⟩ := List.any_eq_true.mp hflag
        simp only [hflag, if_true, reduceCtorEq, false_iff, not_forall]
        exact ⟨credential, fun h => by simp [hlooks] at h⟩
      · simp only [hflag, Bool.false_eq_true, if_false, true_iff]
        intro credential
        have hmem := Credential.mem_all credential
        refine ⟨by simpa using hmissing credential hmem, by simpa using hblank credential hmem, ?_⟩
        by_contra hlooks
        exact hflag (List.any_eq_true.mpr ⟨credential, hmem, by simpa using hlooks⟩)

/-- Among the credentials that a submission goes ahead with, the empty ones are the unseen. -/
theorem getText_eq_empty_iff (file : File) (environment : String → Option String)
    (h : prerequisites flags (settingsFor file environment flags) = .ok ())
    (credential : Credential) :
    (settingsFor file environment flags).getText credential.key = "" ↔
      IsUnseenEmpty flags (settingsFor file environment flags) credential := by
  obtain ⟨hmissing, hblank, -⟩ := prerequisites_eq_ok_iff.mp h credential
  set settings := settingsFor file environment flags with hsettings
  rw [Settings.getText, Value.asText_eq_empty_iff]
  constructor
  · intro hempty
    have huntyped : flags.changed credential.flag = false := by
      simpa [isBlank, Settings.getText, hempty, Value.asText] using hblank
    have hset : settings.isSet credential.key = true := by
      simpa [isMissing, huntyped] using hmissing
    obtain ⟨source, hsource⟩ := Option.isSome_iff_exists.mp hset
    have hgiven := settings.given_of_source? _ hsource
    rw [hempty] at hgiven
    refine ⟨huntyped, source, ?_, hsource, hgiven⟩
    rw [hsettings, settingsFor_given] at hgiven
    cases source with
    | override => simp at hgiven
    | flag => exact Or.inl rfl
    | environment => exact absurd hgiven (Settings.fromEnvironment_ne_empty _ _)
    | file => exact Or.inr rfl
  · rintro ⟨-, source, -, hsource, hgiven⟩
    rw [settings.given_of_source? _ hsource] at hgiven
    exact Option.some.inj hgiven

/-- Where no two flags share a name, an unseen empty credential stands in the file. -/
theorem IsUnseenEmpty.source_eq_file {file : File} {environment : String → Option String}
    {credential : Credential} (hdistinct : (flags.list.map Flag.name).Nodup)
    (h : IsUnseenEmpty flags (settingsFor file environment flags) credential) :
    (settingsFor file environment flags).source? credential.key = some .file ∧
      file.value? credential.key = some (.text "") := by
  obtain ⟨huntyped, source, rfl | rfl, hsource, hgiven⟩ := h
  · rw [settingsFor_given] at hgiven
    obtain ⟨flag, hmem, htyped, hname, -⟩ := flags.exists_of_typedValue? _ hgiven
    have hcredential : credential.flag = flag.name := by
      cases credential <;> simpa [Credential.key, Credential.flag, Key.flag?] using hname
    rw [hcredential, flags.changed_of_mem hdistinct hmem, htyped] at huntyped
    exact absurd huntyped (by decide)
  · exact ⟨hsource, by simpa only [settingsFor_given] using hgiven⟩

/-- A text that starts like a flag is not an identifier without hyphens. -/
theorem not_startsLikeFlag_of_normalize? {id present : String}
    (h : ProjectId.normalize? id = some present) (hid : ¬ "--".toList <+: id.toList) :
    ¬ "--".toList <+: present.toList := by
  rcases ProjectId.eq_of_normalize? h with rfl | ⟨-, hhyphen⟩
  · exact hid
  · rintro ⟨rest, hrest⟩
    exact hhyphen (hrest ▸ by simp)

/-- The present spelling is empty for the empty identifier and for the old spelling of it. -/
theorem normalize?_eq_empty_iff {id present : String}
    (h : ProjectId.normalize? id = some present) : present = "" ↔ id = "" ∨ id = "ospid-" := by
  constructor
  · rintro rfl
    rcases ProjectId.eq_of_normalize? h with hid | ⟨hid, -⟩
    · exact Or.inl hid.symm
    · exact Or.inr (String.toList_inj.mp hid)
  · rintro (rfl | rfl)
    · exact Option.some.inj (h.symm.trans (by decide +kernel))
    · exact Option.some.inj (h.symm.trans (by decide +kernel))

/-- What the settings of an accepted submission resolve to: the present spelling, the token as it
was, and the wish to submit. -/
theorem getText_of_noted (settings : Settings) (present : String) {after : Settings}
    (hafter : after = if present ≠ (settings.force .submit (.switch true)).getText .projectId then
      (settings.force .submit (.switch true)).force .projectId (.text present)
      else settings.force .submit (.switch true)) :
    after.getText .projectId = present ∧ after.getText .apiToken = settings.getText .apiToken ∧
      after.getBool .submit = .ok true := by
  by_cases hsame : present = (settings.force .submit (.switch true)).getText .projectId
  · rw [if_neg (not_not.mpr hsame)] at hafter
    subst hafter
    refine ⟨hsame.symm, ?_, ?_⟩
    · simp [Settings.getText_force]
    · simp [Settings.getBool, Settings.get_force]
  · rw [if_pos hsame] at hafter
    subst hafter
    refine ⟨?_, ?_, ?_⟩
    · simp [Settings.getText_force, Value.asText]
    · simp [Settings.getText_force]
    · simp [Settings.getBool, Settings.get_force]

/-- A request for a submission that is accepted runs as a submission. Neither credential has the
shape of a flag, whichever source gives it and whichever spelling the identifier has. The token is
empty just where it is so unseen; the identifier also where it is the old spelling of nothing. An
unseen empty credential is one that the file gives. -/
theorem accepted_submission_credentials (args : List String) (flags : Flags) (file : File)
    (environment : String → Option String) (accepted : Accepted) (config : RunConfiguration)
    (haccepted : (validate args flags).result (settingsFor file environment flags) = .ok accepted)
    (hsubmit : accepted.submit = true)
    (hconfig : RunConfiguration.ofSettings
      ((validate args flags).after (settingsFor file environment flags)) = .ok config) :
    config.submit = true ∧
      ¬ "--".toList <+: config.projectId.toList ∧
      ¬ "--".toList <+: config.apiToken.secret.toList ∧
      (config.apiToken.secret = "" ↔
        IsUnseenEmpty flags (settingsFor file environment flags) .apiToken) ∧
      (config.projectId = "" ↔
        IsUnseenEmpty flags (settingsFor file environment flags) .projectId ∨
          (settingsFor file environment flags).getText .projectId = "ospid-") ∧
      ((flags.list.map Flag.name).Nodup → ∀ credential,
        IsUnseenEmpty flags (settingsFor file environment flags) credential →
          (settingsFor file environment flags).source? credential.key = some .file ∧
            file.value? credential.key = some (.text "")) := by
  set settings := settingsFor file environment flags with hsettings
  -- The checks give what the submission has, the noted wish, and the present spelling.
  obtain ⟨image, noted, present, rfl, hpositional, -, hnormal, hafter⟩ :=
    exists_of_validate_eq_ok (Action.apply_of_result haccepted)
  obtain ⟨-, hneeds, -, rfl⟩ := positional_eq_ok_submit hpositional hsubmit
  have hempty := getText_eq_empty_iff file environment hneeds
  have hshape (credential) := (prerequisites_eq_ok_iff.mp hneeds credential).2.2
  simp only [looksLikeFlag, Bool.eq_false_iff, ne_eq, List.isPrefixOf_iff_prefix] at hshape
  obtain ⟨hid, htoken, hsubmits⟩ := getText_of_noted settings present hafter
  obtain ⟨-, hconfigSubmit, -, -, hfields⟩ := RunConfiguration.ofSettings_eq_ok_iff.mp hconfig
  have hconfigId : config.projectId = present := by rw [hfields, hid]
  have hconfigToken : config.apiToken.secret = settings.getText .apiToken := by
    rw [hfields, htoken]
  rw [Settings.getText_force, if_neg (fun h => Key.noConfusion h)] at hnormal
  refine ⟨?_, ?_, ?_, ?_, ?_, fun hdistinct credential h => h.source_eq_file hdistinct⟩
  · exact Except.ok.inj (hconfigSubmit.symm.trans hsubmits)
  · rw [hconfigId]
    exact not_startsLikeFlag_of_normalize? hnormal (hshape .projectId)
  · rw [hconfigToken]
    exact hshape .apiToken
  · rw [hconfigToken]
    exact hempty .apiToken
  · rw [hconfigId, normalize?_eq_empty_iff hnormal]
    exact or_congr (hempty .projectId) Iff.rfl

/-- A submission with an identifier in the old spelling from the environment and a token from the
file runs with both. -/
theorem accepted_submission_credentials_of_two_sources :
    let flags : Flags := ⟨[⟨"submit", "true", true⟩, ⟨"pyxis-env", "prod", false⟩]⟩
    let file : File := { File.empty with apiToken := some "secret" }
    let environment := fun name =>
      if name = "PFLT_CERTIFICATION_PROJECT_ID" then some "ospid-777" else none
    let settings := settingsFor file environment flags
    ∃ config, (validate ["image"] flags).result settings = .ok ⟨"image", true⟩ ∧
      RunConfiguration.ofSettings ((validate ["image"] flags).after settings) = .ok config ∧
      config.submit = true ∧ config.projectId = "777" ∧ config.apiToken.secret = "secret" ∧
      ¬ IsUnseenEmpty flags settings .apiToken ∧ ¬ IsUnseenEmpty flags settings .projectId := by
  intro flags file environment settings
  have haccepted : (validate ["image"] flags).result settings = .ok ⟨"image", true⟩ := by
    decide +kernel
  let config : RunConfiguration :=
    ⟨"777", ⟨"secret"⟩, Pyxis.hostFor "prod" "", "prod", "amd64", true, false, "", "artifacts",
      "preflight.log", "info", false, "json"⟩
  have hconfig : RunConfiguration.ofSettings ((validate ["image"] flags).after settings) =
      .ok config := by
    decide +kernel
  obtain ⟨hsubmit, -, -, htoken, hid, -⟩ :=
    accepted_submission_credentials _ _ _ _ _ _ haccepted rfl hconfig
  refine ⟨config, haccepted, hconfig, hsubmit, rfl, rfl, fun hempty => ?_, fun hempty => ?_⟩
  · exact absurd (htoken.mpr hempty) (by decide)
  · exact absurd (hid.mpr (Or.inl hempty)) (by decide)

/-- The two ways to an accepted submission that lacks a credential: a file with an empty token, and
a typed identifier in the old spelling of nothing. -/
theorem accepted_submission_without_credentials :
    (let file : File :=
        { File.empty with submit := some true, projectId := some "777", apiToken := some "" }
      let settings := settingsFor file (fun _ => none) Flags.none
      (validate ["image"] Flags.none).result settings = .ok ⟨"image", true⟩ ∧
        (RunConfiguration.ofSettings ((validate ["image"] Flags.none).after settings)).map
          (fun config => (config.submit, config.apiToken.secret)) = .ok (true, "")) ∧
    (let flags : Flags := ⟨[⟨"submit", "true", true⟩, ⟨"pyxis-api-token", "secret", true⟩,
        ⟨"certification-project-id", "ospid-", true⟩]⟩
      let settings := settingsFor File.empty (fun _ => none) flags
      (validate ["image"] flags).result settings = .ok ⟨"image", true⟩ ∧
        (RunConfiguration.ofSettings ((validate ["image"] flags).after settings)).map
          (fun config => (config.submit, config.projectId)) = .ok (true, "")) := by
  decide +kernel

end ContainerCert.Validation
