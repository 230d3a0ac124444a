import ContainerCert.Proofs.Actions
import ContainerCert.Proofs.ProjectIds
import ContainerCert.Proofs.SettingsSources

/-!
# What a request that was checked leaves

Each check is told by its verdict and the settings it leaves. From an accepted request for a
submission it follows what the checks have seen of its credentials, and what they have not: an
empty text that was not typed, and an identifier whose present spelling is empty.
-/

namespace ContainerCert

open Config

theorem Credential.mem_all (credential : Credential) : credential ∈ Credential.all := by
  cases credential <;> decide

namespace Validation

variable (flags : Flags) (settings : Settings)

/-- One image: the wish to submit is looked at, and noted once the submission has what it
needs. -/
theorem positional_singleton (image : String) :
    positional [image] flags settings = match submitRequested flags settings with
      | .error cause => (.error cause, settings)
      | .ok false => (.ok ⟨image, false⟩, settings)
      | .ok true => match prerequisites flags settings with
        | .error cause => (.error cause, settings)
        | .ok () => (.ok ⟨image, true⟩, settings.force .submit (.switch true)) := by
  simp only [positional, Action.bind_apply, Action.pure_apply, Action.get_apply,
    Action.ofExcept_apply]
  cases submitRequested flags settings with
  | error cause => rfl
  | ok submit =>
    cases submit with
    | false => rfl
    | true =>
      simp only [if_true, Action.bind_apply, Action.ofExcept_apply]
      cases prerequisites flags settings <;> rfl

/-- Any other count of images is refused at once. -/
theorem positional_of_ne_singleton {args : List String} (h : ∀ image, args ≠ [image]) :
    positional args flags settings = (.error (.positional args.length), settings) := by
  match args with
  | [] => rfl
  | [image] => exact absurd rfl (h image)
  | _ :: _ :: _ => rfl

/-- The identifier is replaced by its present spelling. -/
theorem projectId_apply :
    projectId settings = match ProjectId.normalize? (settings.getText .projectId) with
      | none => (.error (.malformedProjectId (settings.getText .projectId)), settings)
      | some present =>
        (.ok (), if present ≠ settings.getText .projectId then
          settings.force .projectId (.text present) else settings) := by
  simp only [projectId, Action.bind_apply, Action.get_apply]
  cases ProjectId.normalize? (settings.getText .projectId) with
  | none => rfl
  | some present =>
    by_cases hsame : present = settings.getText .projectId <;> simp [hsame]

variable {flags settings}

/-- A submission is accepted when it is asked for and has what it needs, and is noted. -/
theorem positional_eq_ok_submit {image : String} {accepted : Accepted} {noted : Settings}
    (h : positional [image] flags settings = (.ok accepted, noted))
    (hsubmit : accepted.submit = true) :
    submitRequested flags settings = .ok true ∧ prerequisites flags settings = .ok () ∧
      accepted.image = image ∧ noted = settings.force .submit (.switch true) := by
  rw [positional_singleton] at h
  cases hrequested : submitRequested flags settings with
  | error cause => simp [hrequested] at h
  | ok submit =>
    cases submit with
    | false =>
      simp only [hrequested, Action.ending_inj, Except.ok.injEq] at h
      simp [← h.1] at hsubmit
    | true =>
      cases hneeds : prerequisites flags settings with
      | error cause => simp [hrequested, hneeds] at h
      | ok =>
        simp only [hrequested, hneeds, Action.ending_inj, Except.ok.injEq] at h
        obtain ⟨rfl, rfl⟩ := h
        exact ⟨rfl, rfl, rfl, rfl⟩

/-- What an accepted request went through, and the settings it leaves. -/
theorem exists_of_validate_eq_ok {args : List String} {accepted : Accepted} {after : Settings}
    (h : validate args flags settings = (.ok accepted, after)) :
    ∃ image noted present, args = [image] ∧
      positional [image] flags settings = (.ok accepted, noted) ∧ flagGroups flags = .ok () ∧
      ProjectId.normalize? (noted.getText .projectId) = some present ∧
      after = if present ≠ noted.getText .projectId then
        noted.force .projectId (.text present) else noted := by
  obtain ⟨first, noted, hpositional, hrest⟩ := Action.bind_eq_ok.mp h
  obtain ⟨_, noted', hgroups, hlast⟩ := Action.bind_eq_ok.mp hrest
  obtain ⟨_, after', hid, hreturn⟩ := Action.bind_eq_ok.mp hlast
  simp only [Action.ofExcept_apply, Action.ending_inj] at hgroups
  simp only [Action.pure_apply, Action.ending_inj, Except.ok.injEq] at hreturn
  obtain ⟨hgroups, rfl⟩ := hgroups
  obtain ⟨rfl, rfl⟩ := hreturn
  obtain ⟨image, rfl⟩ : ∃ image, args = [image] := by
    by_contra hnone
    rw [positional_of_ne_singleton _ _ (by simpa using hnone)] at hpositional
    simp at hpositional
  rw [projectId_apply] at hid
  cases hnormal : ProjectId.normalize? (noted.getText .projectId) with
  | none => simp [hnormal] at hid
  | some present =>
    simp only [hnormal, Action.ending_inj, true_and] at hid
    exact ⟨image, noted, present, rfl, hpositional, hgroups, hnormal, hid.symm⟩

end Validation
end ContainerCert
