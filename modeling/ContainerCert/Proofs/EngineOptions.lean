import ContainerCert.Check.Options

/-!
# What a list of options makes

There are five kinds of options, and the settings of the engine hold one thing of each kind. An
option sets what is held of its kind and leaves the rest alone, so the last option of each kind is
all that counts. The kinds may alternate in any way, what is replaced later may be left out, and
options that follow others go on from what those have made. The options for a run make settings
that hold just what the configuration of the run says.
-/

namespace ContainerCert.Check

open Config (RunConfiguration)

/-- The kinds of options. -/
inductive OptionKind where
  | project
  | dockerConfig
  | host
  | platform
  | insecure
  deriving DecidableEq, Repr

def CheckOption.kind : CheckOption → OptionKind
  | .project _ _ => .project
  | .dockerConfig _ => .dockerConfig
  | .host _ => .host
  | .platform _ => .platform
  | .insecure => .insecure

/-- The options of a kind, in order. -/
def ofKind (kind : OptionKind) (options : List CheckOption) : List CheckOption :=
  options.filter (·.kind = kind)

/-- The last option of a kind. -/
def lastOf? (kind : OptionKind) (options : List CheckOption) : Option CheckOption :=
  (ofKind kind options).getLast?

/-- The same options of each kind in the same order; how the kinds alternate does not matter. -/
def AgreeByKind (options others : List CheckOption) : Prop :=
  ∀ kind, ofKind kind options = ofKind kind others

section
variable {kind : OptionKind} {option : CheckOption} {options others before after : List CheckOption}

theorem CheckOption.kind_eq_insecure_iff : option.kind = .insecure ↔ option = .insecure := by
  cases option <;> simp [kind]

theorem lastOf?_append :
    lastOf? kind (options ++ others) = (lastOf? kind others).or (lastOf? kind options) := by
  rw [lastOf?, ofKind, List.filter_append, List.getLast?_append]
  rfl

theorem lastOf?_singleton :
    lastOf? kind [option] = if option.kind = kind then some option else none := by
  by_cases hkind : option.kind = kind <;> simp [lastOf?, ofKind, hkind]

theorem lastOf?_cons : lastOf? kind (option :: options) =
    (lastOf? kind options).or (if option.kind = kind then some option else none) := by
  rw [← List.singleton_append, lastOf?_append, lastOf?_singleton]

theorem lastOf?_ne_none_iff :
    lastOf? kind options ≠ none ↔ ∃ option ∈ options, option.kind = kind := by
  simp [lastOf?, ofKind]

/-- The last options are the same without an option that a later one of its kind replaces. -/
theorem lastOf?_of_replaced (h : ∃ later ∈ after, later.kind = option.kind) :
    lastOf? kind (before ++ after) = lastOf? kind (before ++ option :: after) := by
  rw [lastOf?_append, lastOf?_append, lastOf?_cons]
  split
  · next hkind =>
    obtain ⟨last, hlast⟩ := Option.ne_none_iff_exists'.mp (lastOf?_ne_none_iff.mpr h)
    rw [← hkind, hlast]
    rfl
  · rw [Option.or_none]

end

namespace EngineSettings

/-- What settings hold of a kind, as the option that sets it. -/
def held (settings : EngineSettings) : OptionKind → Option CheckOption
  | .project => some (.project settings.projectId settings.apiToken)
  | .dockerConfig => some (.dockerConfig settings.dockerConfig)
  | .host => some (.host settings.host)
  | .platform => some (.platform settings.platform)
  | .insecure => if settings.insecure then some .insecure else none

variable {settings other : EngineSettings} {options others : List CheckOption}

theorem held_insecure_ne_none_iff :
    settings.held .insecure ≠ none ↔ settings.insecure = true := by
  simp [held]

/-- Settings are what they hold of each kind. -/
theorem ext_held (h : ∀ kind, settings.held kind = other.held kind) : settings = other := by
  have hproject := h .project
  have hdocker := h .dockerConfig
  have hhost := h .host
  have hplatform := h .platform
  have hinsecure : settings.insecure = other.insecure := by
    rw [Bool.eq_iff_iff, ← held_insecure_ne_none_iff, ← held_insecure_ne_none_iff, h]
  simp only [held, Option.some.injEq, CheckOption.project.injEq, CheckOption.dockerConfig.injEq,
    CheckOption.host.injEq, CheckOption.platform.injEq] at hproject hdocker hhost hplatform
  cases settings
  cases other
  simp_all

/-- An option sets what is held of its kind. -/
theorem held_apply (settings : EngineSettings) (option : CheckOption) (kind : OptionKind) :
    (settings.apply option).held kind =
      if option.kind = kind then some option else settings.held kind := by
  cases option <;> cases kind <;> rfl

/-- What is held of a kind is the last option of the kind, or else what was held before. -/
theorem held_applyAll (settings : EngineSettings) (options : List CheckOption)
    (kind : OptionKind) :
    (settings.applyAll options).held kind = (lastOf? kind options).or (settings.held kind) := by
  induction options generalizing settings with
  | nil => rfl
  | cons option options ih =>
    have hrest : (settings.applyAll (option :: options)).held kind =
        (lastOf? kind options).or ((settings.apply option).held kind) := ih (settings.apply option)
    rw [hrest, held_apply, lastOf?_cons]
    -- The first option counts only where none of the later ones is of its kind.
    cases lastOf? kind options with
    | some last => rfl
    | none => split <;> rfl

theorem applyAll_append : settings.applyAll (options ++ others) =
    (settings.applyAll options).applyAll others :=
  List.foldl_append

/-- Options with the same last one of each kind make the same of any settings. -/
theorem applyAll_eq_of_lastOf? (h : ∀ kind, lastOf? kind others = lastOf? kind options) :
    settings.applyAll others = settings.applyAll options :=
  ext_held fun kind => by rw [held_applyAll, held_applyAll, h]

/-- The connection is insecure where any option says so. -/
theorem insecure_ofOptions_iff : (ofOptions options).insecure = true ↔ .insecure ∈ options := by
  have hinitial : initial.held .insecure = none := rfl
  rw [← held_insecure_ne_none_iff, ofOptions, held_applyAll, hinitial, Option.or_none,
    lastOf?_ne_none_iff]
  simp only [CheckOption.kind_eq_insecure_iff, exists_eq_right]

/-- The options for a run make the settings that its configuration says. -/
theorem ofOptions_optionsFor (config : RunConfiguration) :
    ofOptions (optionsFor config) =
      ⟨config.projectId, config.apiToken, config.dockerConfig, config.host, config.platform,
        config.insecure⟩ := by
  rw [ofOptions, optionsFor]
  cases !config.apiToken.isEmpty && !config.projectId.isEmpty <;> cases config.insecure <;> rfl

end EngineSettings

open EngineSettings (ofOptions)

/-- Of each kind, the settings that options make hold the last one, or what is held initially where
there is none; the connection is insecure exactly where some option says so. So other options make
the same settings where they have the same last one of each kind, where they are the same options in
another order that keeps that of each kind, and where an option is left out that a later one of its
kind replaces; and options behind others are applied to what those make. The options for a run make
settings of just what its configuration says, and making them leaves the configuration as it is, but
for the submission, which is turned off where the connection is insecure. -/
theorem last_of_each_kind_counts (options : List CheckOption) :
    (∀ kind, (ofOptions options).held kind =
      (lastOf? kind options).or (EngineSettings.initial.held kind)) ∧
    ((ofOptions options).insecure = true ↔ .insecure ∈ options) ∧
    (∀ others, (∀ kind, lastOf? kind others = lastOf? kind options) →
      ofOptions others = ofOptions options) ∧
    (∀ others, AgreeByKind others options → ofOptions others = ofOptions options) ∧
    (∀ before option after, options = before ++ option :: after →
      (∃ later ∈ after, later.kind = option.kind) →
      ofOptions (before ++ after) = ofOptions options) ∧
    (∀ others, ofOptions (options ++ others) = (ofOptions options).applyAll others) ∧
    ∀ config : RunConfiguration,
      ofOptions (optionsFor config) =
        ⟨config.projectId, config.apiToken, config.dockerConfig, config.host, config.platform,
          config.insecure⟩ ∧
      { withOptionsMade config with submit := config.submit } = config ∧
      (withOptionsMade config).submit = (config.submit && !config.insecure) := by
  refine ⟨EngineSettings.held_applyAll _ options, EngineSettings.insecure_ofOptions_iff,
    fun others hlast => EngineSettings.applyAll_eq_of_lastOf? hlast, fun others hagree => ?_,
    fun before option after hoptions hreplaced => ?_,
    fun others => EngineSettings.applyAll_append, fun config =>
      ⟨EngineSettings.ofOptions_optionsFor config, rfl, rfl⟩⟩
  · exact EngineSettings.applyAll_eq_of_lastOf? fun kind => by rw [lastOf?, hagree kind, lastOf?]
  · subst hoptions
    exact EngineSettings.applyAll_eq_of_lastOf? fun kind => lastOf?_of_replaced hreplaced

/-- Of two platforms the later one counts: wherever the other options stand, without the earlier
one, and with all others in any order. -/
theorem last_of_each_kind_counts_two_platforms :
    let project := CheckOption.project "123" ⟨"secret"⟩
    let options := [.platform "amd64", .insecure, project, .platform "arm64"]
    let turned := [project, .platform "amd64", .platform "arm64", .insecure]
    let few := [.platform "arm64", project, .insecure]
    AgreeByKind turned options ∧ ofOptions turned = ofOptions options ∧
      ofOptions [.insecure, project, .platform "arm64"] = ofOptions options ∧
      (∀ kind, lastOf? kind few = lastOf? kind options) ∧ ofOptions few = ofOptions options ∧
      ofOptions options = ⟨"123", ⟨"secret"⟩, "", "", "arm64", true⟩ := by
  intro project options turned few
  obtain ⟨-, -, hlast, hagree, hreplaced, -⟩ := last_of_each_kind_counts options
  have hturned : AgreeByKind turned options := by
    rintro (_ | _ | _ | _ | _) <;> rfl
  have hlater : ∃ later ∈ [.insecure, project, .platform "arm64"],
      later.kind = (CheckOption.platform "amd64").kind :=
    ⟨.platform "arm64", by simp, rfl⟩
  have hfew : ∀ kind, lastOf? kind few = lastOf? kind options := by
    rintro (_ | _ | _ | _ | _) <;> rfl
  exact ⟨hturned, hagree turned hturned, hreplaced [] _ _ rfl hlater, hfew, hlast few hfew, rfl⟩

end ContainerCert.Check
