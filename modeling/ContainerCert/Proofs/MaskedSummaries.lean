import ContainerCert.Check.Options
import ContainerCert.Config.Flags
import ContainerCert.Proofs.SummaryTexts
import Mathlib.Data.List.Forall2

/-!
# Summaries without the token

The token is masked where the settings list what a source gives, where a flag bears its name, and
wherever it is shown as a token. Everything else is shown as it is, so the summaries of two values
are equal exactly where the values agree on all but the token: a summary tells whether a source
gives a token, but nothing about the token itself.
-/

namespace ContainerCert

open Text (ToldApart IsKey BeginsOff toldApart_quote toldApart_summaryBool toldApart_wrapped
  toldApart_summary toldApart_summaryList toldApart_summaryMap)

/-- Every token is shown alike. -/
theorem toldApart_token (token other : Pyxis.Token) : ToldApart id token.summary other.summary :=
  .refl id token.summary

namespace Config

theorem Value.toldApart_summary (first second : Value) : ToldApart Value.summary first second := by
  cases first with
  | switch on =>
    cases second with
    | switch other =>
      intro rest back h
      obtain ⟨rfl, hrest⟩ := toldApart_wrapped (toldApart_summaryBool on other) "Bool" rest back h
      exact ⟨rfl, hrest⟩
    | text content =>
      intro rest back h
      simp [summary, Text.wrapped] at h
  | text content =>
    cases second with
    | switch on =>
      intro rest back h
      simp [summary, Text.wrapped] at h
    | text other =>
      intro rest back h
      obtain ⟨rfl, hrest⟩ := toldApart_wrapped (toldApart_quote content other) "Str" rest back h
      exact ⟨rfl, hrest⟩

/-! ### Settings -/

/-- The same keys are given, all but the token with the same values. -/
def AgreeButToken (given other : Key → Option Value) : Prop :=
  ∀ key, ((given key).isSome = true ↔ (other key).isSome = true) ∧
    (key ≠ .apiToken → given key = other key)

theorem Key.label_injective : Function.Injective Key.label := by
  intro key other h
  cases key <;> cases other <;> first | rfl | exact absurd h (by decide)

theorem Key.isKey_label (key : Key) : IsKey '\x7d' key.label := by
  cases key <;> decide

namespace Settings

/-- What is shown of the value of a key. -/
def shownValue (key : Key) (value : Value) : String :=
  if key = .apiToken then Pyxis.Token.mask else value.summary

/-- What a layer shows for a key. -/
def shownEntry (given : Key → Option Value) (key : Key) : Option (String × String) :=
  (given key).map fun value => (key.label, shownValue key value)

/-- What a layer shows. -/
def shownEntries (given : Key → Option Value) : List (String × String) :=
  Key.all.filterMap (shownEntry given)

/-- What settings show. -/
def shownLayers (settings : Settings) : List (String × String) :=
  Source.all.map (fun source => (source.label, layerSummary (settings.given source))) ++
    [("defaults", layerSummary fun key => some key.initial)]

variable {given other : Key → Option Value} {key : Key} {entry : String × String}

theorem layerSummary_eq (given : Key → Option Value) :
    layerSummary given = Text.summaryMap (shownEntries given) :=
  rfl

theorem summary_eq (settings : Settings) :
    settings.summary = Text.summary "Settings" settings.shownLayers :=
  rfl

theorem label_of_shownEntry (h : shownEntry given key = some entry) : entry.1 = key.label := by
  obtain ⟨value, -, rfl⟩ := Option.map_eq_some_iff.mp h
  rfl

theorem mem_shownEntries_iff :
    entry ∈ shownEntries given ↔ ∃ key, shownEntry given key = some entry := by
  simp [shownEntries, Key.mem_all]

theorem toldApart_shownValue (key : Key) (value other : Value) :
    ToldApart id (shownValue key value) (shownValue key other) := by
  unfold shownValue
  split
  · exact .refl _ _
  · exact (Value.toldApart_summary value other).shown

theorem toldApart_shownEntries (given other : Key → Option Value) :
    ToldApart Text.summaryMap (shownEntries given) (shownEntries other) := by
  have hkeys {given : Key → Option Value} : ∀ entry ∈ shownEntries given, IsKey '\x7d' entry.1 := by
    intro entry hentry
    obtain ⟨key, hkey⟩ := mem_shownEntries_iff.mp hentry
    rw [label_of_shownEntry hkey]
    exact key.isKey_label
  refine toldApart_summaryMap hkeys hkeys fun pair hpair hlabels => ?_
  obtain ⟨hfirst, hsecond⟩ := List.of_mem_zip hpair
  obtain ⟨key, hkey⟩ := mem_shownEntries_iff.mp hfirst
  obtain ⟨otherKey, hother⟩ := mem_shownEntries_iff.mp hsecond
  rw [label_of_shownEntry hkey, label_of_shownEntry hother] at hlabels
  obtain rfl := Key.label_injective hlabels
  obtain ⟨value, -, hvalue⟩ := Option.map_eq_some_iff.mp hkey
  obtain ⟨otherValue, -, hotherValue⟩ := Option.map_eq_some_iff.mp hother
  rw [← hvalue, ← hotherValue]
  exact toldApart_shownValue key value otherValue

/-- Layers that show the same entries show the same for each key. -/
theorem shownEntry_of_entries (h : shownEntries given = shownEntries other)
    (hentry : shownEntry given key = some entry) : shownEntry other key = some entry := by
  have hmem : entry ∈ shownEntries given := mem_shownEntries_iff.mpr ⟨key, hentry⟩
  rw [h] at hmem
  obtain ⟨found, hfound⟩ := mem_shownEntries_iff.mp hmem
  have hlabels : found.label = key.label :=
    (label_of_shownEntry hfound).symm.trans (label_of_shownEntry hentry)
  rw [← Key.label_injective hlabels, hfound]

theorem shownEntries_eq_iff : shownEntries given = shownEntries other ↔
    ∀ key, shownEntry given key = shownEntry other key := by
  constructor
  · intro h key
    exact Option.ext fun entry => ⟨shownEntry_of_entries h, shownEntry_of_entries h.symm⟩
  · intro h
    rw [shownEntries, funext h, shownEntries]

/-- The same is shown for a key where its values agree, or both are tokens. -/
theorem shownEntry_eq_iff : shownEntry given key = shownEntry other key ↔
    ((given key).isSome = true ↔ (other key).isSome = true) ∧
      (key ≠ .apiToken → given key = other key) := by
  cases hgiven : given key with
  | none => cases hother : other key <;> simp [shownEntry, hgiven, hother]
  | some value =>
    cases hother : other key with
    | none => simp [shownEntry, hgiven, hother]
    | some otherValue =>
      simp only [shownEntry, hgiven, hother, Option.map_some, Option.some.injEq, Prod.mk.injEq,
        true_and, Option.isSome_some]
      by_cases hkey : key = .apiToken
      · simp [shownValue, hkey]
      · simp only [shownValue, hkey, if_false, ne_eq, not_false_eq_true, true_implies]
        exact (Value.toldApart_summary value otherValue).eq_iff

/-- Layers show the same where they give the same keys, all but the token with the same values. -/
theorem layerSummary_eq_iff :
    layerSummary given = layerSummary other ↔ AgreeButToken given other := by
  rw [layerSummary_eq, layerSummary_eq, (toldApart_shownEntries given other).eq_iff,
    shownEntries_eq_iff]
  exact forall_congr' fun _ => shownEntry_eq_iff

theorem summary_eq_iff {settings other : Settings} : settings.summary = other.summary ↔
    ∀ source, AgreeButToken (settings.given source) (other.given source) := by
  have hlayer (given other : Key → Option Value) :
      ToldApart id (layerSummary given) (layerSummary other) :=
    (toldApart_shownEntries given other).shown
  have hlayers : ToldApart (Text.summary "Settings") settings.shownLayers other.shownLayers :=
    toldApart_summary ["overrides", "flags", "env", "file", "defaults"] (by decide) rfl rfl
      (by simp [shownLayers, Source.all, hlayer])
  rw [summary_eq, summary_eq, hlayers.eq_iff]
  simp only [shownLayers, List.append_cancel_right_eq, List.map_inj_left, Prod.mk.injEq, true_and,
    layerSummary_eq_iff, Source.mem_all, true_implies]

end Settings

/-! ### Flags -/

/-- The same flag, but for its value if it is that of the token. -/
structure Flag.AgreeButToken (flag other : Flag) : Prop where
  name : flag.name = other.name
  changed : flag.changed = other.changed
  value : flag.name ≠ "pyxis-api-token" → flag.value = other.value

namespace Flag

/-- What is shown of the value of a flag. -/
def shownValue (flag : Flag) : String :=
  if Key.apiToken.flag? = some flag.name then Pyxis.Token.mask else flag.value

/-- What a flag shows. -/
def shownParts (flag : Flag) : List (String × String) :=
  [("name", Text.quote flag.name), ("value", Text.quote flag.shownValue),
    ("changed", Text.summaryBool flag.changed)]

theorem summary_eq (flag : Flag) : flag.summary = Text.summary "FlagValue" flag.shownParts :=
  rfl

variable {flag other : Flag}

theorem toldApart_shownParts (flag other : Flag) :
    ToldApart (Text.summary "FlagValue") flag.shownParts other.shownParts :=
  toldApart_summary ["name", "value", "changed"] (by decide) rfl rfl
    (by simp [shownParts, (toldApart_quote _ _).shown, (toldApart_summaryBool _ _).shown])

theorem summary_eq_iff : flag.summary = other.summary ↔ flag.AgreeButToken other := by
  have htoken (flag : Flag) :
      Key.apiToken.flag? = some flag.name ↔ flag.name = "pyxis-api-token" := by
    simp [Key.flag?, eq_comm]
  rw [summary_eq, summary_eq, (toldApart_shownParts flag other).eq_iff]
  simp only [shownParts, List.cons.injEq, Prod.mk.injEq, true_and, and_true, Text.quote_inj,
    Text.summaryBool_inj]
  constructor
  · rintro ⟨hname, hshown, hchanged⟩
    refine ⟨hname, hchanged, fun hne => ?_⟩
    simpa [shownValue, htoken, ← hname, hne] using hshown
  · rintro ⟨hname, hchanged, hvalue⟩
    refine ⟨hname, ?_, hchanged⟩
    simp only [shownValue, htoken, ← hname]
    split
    · rfl
    · next hne => exact hvalue hne

theorem beginsOff_summary (flag : Flag) : BeginsOff ']' flag.summary := by
  simp [summary, Text.summary, BeginsOff]

end Flag

theorem Flags.summary_eq_iff {flags others : Flags} : flags.summary = others.summary ↔
    List.Forall₂ Flag.AgreeButToken flags.list others.list := by
  have hpairs : ∀ pair ∈ (flags.list.map Flag.summary).zip (others.list.map Flag.summary),
      ToldApart id pair.1 pair.2 := by
    intro pair hpair
    obtain ⟨hfirst, hsecond⟩ := List.of_mem_zip hpair
    obtain ⟨flag, -, hflag⟩ := List.mem_map.mp hfirst
    obtain ⟨other, -, hother⟩ := List.mem_map.mp hsecond
    rw [← hflag, ← hother]
    exact (Flag.toldApart_shownParts flag other).shown
  have hlists : ToldApart Text.summaryList (flags.list.map Flag.summary)
      (others.list.map Flag.summary) :=
    toldApart_summaryList hpairs (by simp [Flag.beginsOff_summary])
      (by simp [Flag.beginsOff_summary])
  have hwhole : flags.summary = others.summary ↔
      flags.list.map Flag.summary = others.list.map Flag.summary := by
    rw [← hlists.eq_iff, summary, summary, (toldApart_summary ["flags"] (by decide) rfl rfl
      (by simp [hlists.shown])).eq_iff]
    simp
  rw [hwhole, ← List.forall₂_eq_eq_eq, List.forall₂_map_left_iff, List.forall₂_map_right_iff]
  simp only [Flag.summary_eq_iff]

/-! ### Configurations -/

theorem RunConfiguration.summary_eq_iff {config other : RunConfiguration} :
    config.summary = other.summary ↔ ∃ token, other = { config with apiToken := token } := by
  rw [summary, summary, (toldApart_summary ["certification_project_id", "pyxis_api_token",
    "pyxis_host", "pyxis_env", "platform", "submit", "insecure", "docker_config", "artifacts",
    "log_file", "log_level", "write_junit", "response_format"] (by decide) rfl rfl
    (by simp [(toldApart_quote _ _).shown, (toldApart_summaryBool _ _).shown,
      toldApart_token])).eq_iff]
  cases config
  cases other
  simp [Text.quote_inj, Text.summaryBool_inj, Pyxis.Token.summary, Pyxis.Token.shown, eq_comm]

end Config

theorem Check.EngineSettings.summary_eq_iff {settings other : Check.EngineSettings} :
    settings.summary = other.summary ↔ ∃ token, other = { settings with apiToken := token } := by
  rw [summary, summary, (toldApart_summary ["certification_project_id", "pyxis_api_token",
    "docker_config", "pyxis_host", "platform", "insecure"] (by decide) rfl rfl
    (by simp [(toldApart_quote _ _).shown, (toldApart_summaryBool _ _).shown,
      toldApart_token])).eq_iff]
  cases settings
  cases other
  simp [Text.quote_inj, Text.summaryBool_inj, Pyxis.Token.summary, Pyxis.Token.shown, eq_comm]

/-- Two summaries of settings are equal exactly where every source gives the same keys, all but the
token with the same values; of flags, exactly where these are the same one by one, but for the
values of flags with the name of the token; and of configurations and settings of the engine,
exactly where these are the same but for the token. So no summary depends on a token, whichever
sources give one, and each of them tells everything else. -/
theorem summaries_tell_all_but_token :
    (∀ settings other : Config.Settings, settings.summary = other.summary ↔
      ∀ source, Config.AgreeButToken (settings.given source) (other.given source)) ∧
    (∀ flags others : Config.Flags, flags.summary = others.summary ↔
      List.Forall₂ Config.Flag.AgreeButToken flags.list others.list) ∧
    (∀ config other : Config.RunConfiguration, config.summary = other.summary ↔
      ∃ token, other = { config with apiToken := token }) ∧
    ∀ settings other : Check.EngineSettings, settings.summary = other.summary ↔
      ∃ token, other = { settings with apiToken := token } :=
  ⟨fun _ _ => Config.Settings.summary_eq_iff, fun _ _ => Config.Flags.summary_eq_iff,
    fun _ _ => Config.RunConfiguration.summary_eq_iff,
    fun _ _ => Check.EngineSettings.summary_eq_iff⟩

end ContainerCert
