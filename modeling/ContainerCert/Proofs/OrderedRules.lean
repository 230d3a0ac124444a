import ContainerCert.Proofs.Requests
import Mathlib.Data.List.Infix

/-!
# The rules of the check, in their order

Everything the check looks for is a rule about the arguments, the flags and the settings as they
were given. The first rule that is broken is the verdict. Until submission has what it needs, a
refusal leaves the settings as they were; after that it leaves the wish to submit as an override.
-/

namespace ContainerCert.Validation

open Config

/-- A rule of the check. -/
inductive Rule where
  | count
  | readable
  | missing (credential : Credential)
  | blank (credential : Credential)
  | shape
  | exclusive
  | hyphens
  deriving DecidableEq, Repr

/-- Whether a submission is asked for, by the setting or by the marker in the value of a flag that
was typed. -/
def WantsSubmission (flags : Flags) (settings : Settings) : Prop :=
  (settings.get .submit).asBool? = some true ∨
    ∃ flag ∈ flags.list, flag.changed = true ∧ "--submit".toList <:+: flag.value.toList

instance (flags : Flags) (settings : Settings) : Decidable (WantsSubmission flags settings) :=
  inferInstanceAs (Decidable (_ ∨ _))

namespace Rule

/-- The rules about what a submission needs. -/
def needs : List Rule :=
  [.missing .projectId, .missing .apiToken, .blank .projectId, .blank .apiToken, .shape]

/-- The rules that come before the wish to submit is noted. -/
def early : List Rule :=
  .count :: .readable :: needs

/-- The rules that come after it. -/
def late : List Rule :=
  [.exclusive, .hyphens]

/-- All rules, in their order. -/
def all : List Rule :=
  early ++ late

/-- Whether arguments, flags and settings break a rule. -/
def IsBroken (args : List String) (flags : Flags) (settings : Settings) : Rule → Prop
  | .count => args.length ≠ 1
  | .readable => (settings.get .submit).asBool? = none
  | .missing credential => WantsSubmission flags settings ∧
      flags.changed credential.flag = false ∧
      ∀ source ∈ Source.all, settings.given source credential.key = none
  | .blank credential => WantsSubmission flags settings ∧
      flags.changed credential.flag = true ∧ settings.getText credential.key = ""
  | .shape => WantsSubmission flags settings ∧
      ∃ credential ∈ Credential.all, "--".toList <+: (settings.getText credential.key).toList
  | .exclusive => flags.changed "submit" = true ∧ flags.changed "insecure" = true
  | .hyphens => 1 < (settings.getText .projectId).toList.count '-'

instance (args : List String) (flags : Flags) (settings : Settings) :
    DecidablePred (IsBroken args flags settings)
  | .count => inferInstanceAs (Decidable (args.length ≠ 1))
  | .readable => inferInstanceAs (Decidable (_ = none))
  | .missing _ => inferInstanceAs (Decidable (_ ∧ _ ∧ _))
  | .blank _ => inferInstanceAs (Decidable (_ ∧ _ ∧ _))
  | .shape => inferInstanceAs (Decidable (_ ∧ _))
  | .exclusive => inferInstanceAs (Decidable (_ ∧ _))
  | .hyphens => inferInstanceAs (Decidable (_ < _))

/-- How a broken rule is told. -/
def error (args : List String) (settings : Settings) : Rule → ValidationError
  | .count => .positional args.length
  | .readable => .configuration (.notABool .submit (settings.getText .submit))
  | .missing credential => .missing credential
  | .blank credential => .blank credential
  | .shape => .swallowed
  | .exclusive => .exclusive "submit" "insecure"
  | .hyphens => .malformedProjectId (settings.getText .projectId)

end Rule

/-- The first of some rules that is broken. -/
def firstBroken? (rules : List Rule) (args : List String) (flags : Flags) (settings : Settings) :
    Option Rule :=
  rules.find? fun rule => rule.IsBroken args flags settings

/-- The settings with the wish to submit as an override, if there is one. -/
def noted (flags : Flags) (settings : Settings) : Settings :=
  if WantsSubmission flags settings then settings.force .submit (.switch true) else settings

/-- The settings with the note, and with the present spelling of an identifier in the old one. -/
def settled (flags : Flags) (settings : Settings) : Settings :=
  if ProjectId.IsLegacy (settings.getText .projectId) then
    (noted flags settings).force .projectId
      (.text (ProjectId.present (settings.getText .projectId)))
  else noted flags settings

variable {args : List String} {flags : Flags} {settings : Settings} {credential : Credential}

theorem asksToSubmit_iff : flags.asksToSubmit = true ↔
    ∃ flag ∈ flags.list, flag.changed = true ∧ "--submit".toList <:+: flag.value.toList := by
  simp only [Flags.asksToSubmit, List.any_eq_true, Bool.and_eq_true, Text.holds_iff]
  rfl

/-- The wish to submit is known where the setting reads as a truth value. -/
theorem submitRequested_eq (flags : Flags) (settings : Settings) :
    submitRequested flags settings = match (settings.get .submit).asBool? with
      | none => .error (.configuration (.notABool .submit (settings.getText .submit)))
      | some _ => .ok (decide (WantsSubmission flags settings)) := by
  rw [submitRequested, Settings.getBool_eq]
  cases hsubmit : (settings.get .submit).asBool? with
  | none => rfl
  | some on =>
    have hwish : (on || flags.asksToSubmit) = decide (WantsSubmission flags settings) := by
      rw [Bool.eq_iff_iff, decide_eq_true_eq, WantsSubmission, ← asksToSubmit_iff, hsubmit,
        Bool.or_eq_true, Option.some.injEq]
    exact congrArg Except.ok hwish

theorem isMissing_eq (hwants : WantsSubmission flags settings) :
    isMissing flags settings credential =
      decide ((Rule.missing credential).IsBroken args flags settings) := by
  rw [Bool.eq_iff_iff, decide_eq_true_eq]
  simp [isMissing, Rule.IsBroken, hwants, Settings.isSet, Settings.source?]

theorem isBlank_eq (hwants : WantsSubmission flags settings) :
    isBlank flags settings credential =
      decide ((Rule.blank credential).IsBroken args flags settings) := by
  rw [Bool.eq_iff_iff, decide_eq_true_eq]
  simp [isBlank, Rule.IsBroken, hwants]

theorem any_looksLikeFlag_iff (hwants : WantsSubmission flags settings) :
    Credential.all.any (looksLikeFlag settings) = true ↔
      Rule.shape.IsBroken args flags settings := by
  simp [looksLikeFlag, Rule.IsBroken, hwants, List.isPrefixOf_iff_prefix]

/-- Where a submission is asked for, it has what it needs unless one of the rules about that is
broken, and the first one is told. -/
theorem prerequisites_eq (args : List String) (hwants : WantsSubmission flags settings) :
    prerequisites flags settings = match firstBroken? Rule.needs args flags settings with
      | some rule => .error (rule.error args settings)
      | none => .ok () := by
  have hmissing : (fun rule : Rule => decide (rule.IsBroken args flags settings)) ∘ Rule.missing =
      isMissing flags settings := funext fun _ => (isMissing_eq hwants).symm
  have hblank : (fun rule : Rule => decide (rule.IsBroken args flags settings)) ∘ Rule.blank =
      isBlank flags settings := funext fun _ => (isBlank_eq hwants).symm
  have hneeds : Rule.needs =
      Credential.all.map .missing ++ (Credential.all.map .blank ++ [.shape]) := rfl
  rw [prerequisites, firstBroken?, hneeds, List.find?_append, List.find?_append, List.find?_map,
    List.find?_map, hmissing, hblank]
  cases Credential.all.find? (isMissing flags settings) with
  | some credential => rfl
  | none =>
    cases Credential.all.find? (isBlank flags settings) with
    | some credential => rfl
    | none =>
      by_cases hshape : Rule.shape.IsBroken args flags settings
      · simp [(any_looksLikeFlag_iff hwants).mpr hshape, hshape, Rule.error]
      · simp [hshape, mt (any_looksLikeFlag_iff hwants).mp hshape]

/-- Where no submission is asked for, the rules about what it needs are not broken. -/
theorem firstBroken?_needs (args : List String) (hwants : ¬ WantsSubmission flags settings) :
    firstBroken? Rule.needs args flags settings = none := by
  simp [firstBroken?, Rule.needs, Rule.IsBroken, hwants]

/-- The first checks tell the first of the early rules that is broken, or give the image with the
wish to submit, which is noted. -/
theorem positional_eq (args : List String) (flags : Flags) (settings : Settings) :
    match firstBroken? Rule.early args flags settings with
    | some rule => positional args flags settings = (.error (rule.error args settings), settings)
    | none => ∃ image, args = [image] ∧ positional args flags settings =
        (.ok ⟨image, WantsSubmission flags settings⟩, noted flags settings) := by
  by_cases hcount : args.length = 1
  · obtain ⟨image, rfl⟩ := List.length_eq_one_iff.mp hcount
    cases hsubmit : (settings.get .submit).asBool? with
    | none =>
      have hfirst : firstBroken? Rule.early [image] flags settings = some .readable := by
        simp [firstBroken?, Rule.early, Rule.IsBroken, hsubmit]
      rw [hfirst, positional_singleton, submitRequested_eq, hsubmit]
      rfl
    | some on =>
      have hfirst : firstBroken? Rule.early [image] flags settings =
          firstBroken? Rule.needs [image] flags settings := by
        simp [firstBroken?, Rule.early, Rule.IsBroken, hsubmit]
      rw [hfirst, positional_singleton, submitRequested_eq, hsubmit]
      by_cases hwants : WantsSubmission flags settings
      · simp only [hwants, decide_true, prerequisites_eq [image] hwants, noted, if_true]
        cases firstBroken? Rule.needs [image] flags settings with
        | some rule => rfl
        | none => exact ⟨image, rfl, rfl⟩
      · rw [firstBroken?_needs [image] hwants]
        simp only [hwants, decide_false, noted, if_false]
        exact ⟨image, rfl, rfl⟩
  · have hfirst : firstBroken? Rule.early args flags settings = some .count := by
      simp [firstBroken?, Rule.early, Rule.IsBroken, hcount]
    rw [hfirst]
    exact positional_of_ne_singleton flags settings fun image h => hcount (by rw [h]; rfl)

/-- Noting the wish to submit leaves the identifier. -/
theorem getText_noted (flags : Flags) (settings : Settings) :
    (noted flags settings).getText .projectId = settings.getText .projectId := by
  unfold noted
  split
  · exact settings.getText_force _ _ _
  · rfl

theorem noted_given (flags : Flags) (settings : Settings) (source : Source) (key : Key) :
    (noted flags settings).given source key =
      if source = .override ∧ key = .submit ∧ WantsSubmission flags settings then
        some (.switch true)
      else settings.given source key := by
  by_cases hwants : WantsSubmission flags settings
  · simp [noted, hwants, Settings.force, Settings.put_given]
  · simp [noted, hwants]

theorem settled_given (flags : Flags) (settings : Settings) (source : Source) (key : Key) :
    (settled flags settings).given source key =
      if source = .override ∧ key = .submit ∧ WantsSubmission flags settings then
        some (.switch true)
      else if source = .override ∧ key = .projectId ∧
          ProjectId.IsLegacy (settings.getText .projectId) then
        some (.text (ProjectId.present (settings.getText .projectId)))
      else settings.given source key := by
  by_cases hlegacy : ProjectId.IsLegacy (settings.getText .projectId)
  · rw [settled, if_pos hlegacy, Settings.force, Settings.put_given, noted_given]
    by_cases hid : key = .projectId
    · simp [hid, hlegacy]
    · simp [hid]
  · rw [settled, if_neg hlegacy, noted_given]
    simp [hlegacy]

/-- The last checks look at the flags and at the identifier, which gets its present spelling. -/
theorem checks_after_noted (args : List String) (accepted : Accepted) :
    (Action.ofExcept (flagGroups flags) >>= fun _ => projectId >>= fun _ => pure accepted)
        (noted flags settings) =
      match firstBroken? Rule.late args flags settings with
      | some rule => (.error (rule.error args settings), noted flags settings)
      | none => (.ok accepted, settled flags settings) := by
  by_cases hexclusive : flags.changed "submit" = true ∧ flags.changed "insecure" = true
  · have hgroups : flagGroups flags = .error (.exclusive "submit" "insecure") := by
      simp [flagGroups, hexclusive]
    have hfirst : firstBroken? Rule.late args flags settings = some .exclusive := by
      simp [firstBroken?, Rule.late, Rule.IsBroken, hexclusive]
    rw [hgroups, hfirst]
    rfl
  · have hgroups : flagGroups flags = .ok () := by
      simpa [flagGroups] using hexclusive
    rw [hgroups, Action.bind_of_ok (Action.ofExcept_apply _ _), Action.bind_apply,
      projectId_apply, getText_noted, ProjectId.normalize?_eq]
    by_cases hhyphens : 1 < (settings.getText .projectId).toList.count '-'
    · have hfirst : firstBroken? Rule.late args flags settings = some .hyphens := by
        simp [firstBroken?, Rule.late, Rule.IsBroken, hexclusive, hhyphens]
      rw [hfirst, if_pos hhyphens]
      rfl
    · have hfirst : firstBroken? Rule.late args flags settings = none := by
        simp [firstBroken?, Rule.late, Rule.IsBroken, hexclusive, hhyphens]
      rw [hfirst, if_neg hhyphens]
      simp only [ProjectId.present_ne_iff, Action.pure_apply, settled]

/-- The verdict is that of the first rule that is broken by what was given, and nothing else
matters. A rule that comes before the wish to submit is noted leaves the settings as they were, a
later one leaves just the note. A request that breaks no rule is accepted with its one image and
the wish; besides the note, it leaves the present spelling of an identifier in the old one. -/
theorem verdict_of_first_broken_rule (args : List String) (flags : Flags) (settings : Settings) :
    match firstBroken? Rule.all args flags settings with
    | some rule => ∃ after,
        validate args flags settings = (.error (rule.error args settings), after) ∧
        (rule ∈ Rule.early → after = settings) ∧
        (rule ∈ Rule.late → ∀ source key, after.given source key =
          if source = .override ∧ key = .submit ∧ WantsSubmission flags settings then
            some (.switch true)
          else settings.given source key)
    | none => ∃ image after, args = [image] ∧
        validate args flags settings = (.ok ⟨image, WantsSubmission flags settings⟩, after) ∧
        ∀ source key, after.given source key =
          if source = .override ∧ key = .submit ∧ WantsSubmission flags settings then
            some (.switch true)
          else if source = .override ∧ key = .projectId ∧
              ProjectId.IsLegacy (settings.getText .projectId) then
            some (.text (ProjectId.present (settings.getText .projectId)))
          else settings.given source key := by
  have hphases : ∀ rule ∈ Rule.early, rule ∉ Rule.late := by decide
  have hpositional := positional_eq args flags settings
  have hall : firstBroken? Rule.all args flags settings =
      (firstBroken? Rule.early args flags settings).or
        (firstBroken? Rule.late args flags settings) := List.find?_append
  rw [hall]
  cases hearly : firstBroken? Rule.early args flags settings with
  | some rule =>
    rw [hearly] at hpositional
    have hmem : rule ∈ Rule.early := List.mem_of_find?_eq_some hearly
    exact ⟨settings, Action.bind_of_error hpositional _, fun _ => rfl,
      fun hlate => absurd hlate (hphases rule hmem)⟩
  | none =>
    rw [hearly] at hpositional
    obtain ⟨image, rfl, hpositional⟩ := hpositional
    have hvalidate : validate [image] flags settings = _ :=
      (Action.bind_of_ok hpositional fun accepted =>
        Action.ofExcept (flagGroups flags) >>= fun _ => projectId >>= fun _ => pure accepted).trans
          (checks_after_noted [image] _)
    rw [Option.none_or]
    cases hlate : firstBroken? Rule.late [image] flags settings with
    | some rule =>
      rw [hlate] at hvalidate
      have hmem : rule ∈ Rule.late := List.mem_of_find?_eq_some hlate
      exact ⟨_, hvalidate, fun hrule => absurd hmem (hphases rule hrule),
        fun _ => noted_given flags settings⟩
    | none =>
      rw [hlate] at hvalidate
      exact ⟨image, _, rfl, hvalidate, settled_given flags settings⟩

end ContainerCert.Validation
