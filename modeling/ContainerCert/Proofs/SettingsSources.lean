import ContainerCert.Program
import Mathlib.Data.List.Induction
import Mathlib.Data.List.Nodup

/-!
# What every source gives

Reading a file, the environment or the typed flags writes to one source and leaves the others as
they were; what each of them gives for a key is told without the order in which keys are written.
The settings of an invocation are then known source by source, and a value that is resolved is
the one of the source that decides.
-/

namespace ContainerCert.Config

/-- An element is found by what tells it from all the others. -/
theorem find?_of_nodup_map {α β : Type} [BEq β] [LawfulBEq β] {tag : α → β} {l : List α} {a : α}
    (hdistinct : (l.map tag).Nodup) (ha : a ∈ l) :
    l.find? (fun other => tag other == tag a) = some a := by
  induction l with
  | nil => simp at ha
  | cons first rest ih =>
    simp only [List.map_cons, List.nodup_cons] at hdistinct
    rcases List.mem_cons.mp ha with rfl | hrest
    · simp
    · have hne : tag first ≠ tag a := fun h => hdistinct.1 (h ▸ List.mem_map_of_mem hrest)
      simp [hne, ih hdistinct.2 hrest]

/-- Only the empty text is empty; a truth value never is. -/
theorem Value.asText_eq_empty_iff {value : Value} : value.asText = "" ↔ value = .text "" := by
  cases value with
  | switch on => cases on <;> decide
  | text content => simp [Value.asText]

namespace Settings

variable (settings : Settings) (key : Key)

theorem put_given (source : Source) (value : Value) (other : Source) (k : Key) :
    (settings.put source key value).given other k =
      if other = source ∧ k = key then some value else settings.given other k := rfl

/-- Writing some keys of one source changes just these keys of this source. -/
theorem foldl_put_given (source : Source) (value? : Key → Option Value) (keys : List Key)
    (other : Source) (k : Key) :
    (keys.foldl (fun settings key =>
        match value? key with
        | some value => settings.put source key value
        | none => settings) settings).given other k =
      if other = source ∧ k ∈ keys then value? k <|> settings.given other k
      else settings.given other k := by
  induction keys generalizing settings with
  | nil => simp
  | cons key keys ih =>
    rw [List.foldl_cons, ih]
    by_cases hsource : other = source
    · by_cases hkey : k = key
      · subst hkey
        cases hvalue : value? k <;> simp [put_given, hsource]
      · cases hvalue : value? key <;> simp [put_given, hsource, hkey]
    · cases hvalue : value? key <;> simp [put_given, hsource]

/-- Every key can stand in a file. -/
theorem mem_entryOrder : key ∈ File.entryOrder := by
  cases key <;> decide

/-- A file gives what it says, and nothing is lost that it does not say. -/
theorem loadFile_given (file : File) (source : Source) :
    (settings.loadFile file).given source key =
      if source = .file then file.value? key <|> settings.given source key
      else settings.given source key := by
  have h := settings.foldl_put_given .file file.value? File.entryOrder source key
  simp only [mem_entryOrder, and_true] at h
  rw [← h, loadFile, File.entries, List.foldl_filterMap]
  congr 2
  funext settings key
  cases file.value? key <;> rfl

/-- The environment gives the variables that are not empty. -/
theorem loadEnvironment_given (lookup : String → Option String) (source : Source) :
    (settings.loadEnvironment lookup).given source key =
      if source = .environment then fromEnvironment lookup key <|> settings.given source key
      else settings.given source key := by
  have h := settings.foldl_put_given .environment (fromEnvironment lookup) Key.all source key
  simp only [Key.mem_all, and_true] at h
  exact h

/-- An environment gives no empty text. -/
theorem fromEnvironment_ne_empty (lookup : String → Option String) :
    fromEnvironment lookup key ≠ some (.text "") := by
  unfold fromEnvironment
  cases hvalue : lookup key.environmentVariable with
  | none => simp
  | some value =>
    by_cases hempty : value.isEmpty
    · simp [hempty]
    · have : value ≠ "" := by simpa using hempty
      simp [hempty, this]

/-- The value of a key is the one that the deciding source gives. -/
theorem given_of_source? {source : Source} (h : settings.source? key = some source) :
    settings.given source key = some (settings.get key) := by
  unfold source? Source.all at h
  unfold get Source.all
  cases hoverride : settings.given .override key <;> cases hflag : settings.given .flag key <;>
    cases henv : settings.given .environment key <;> cases hfile : settings.given .file key <;>
    simp_all

/-- A key that no source gives has its initial value. -/
theorem get_of_source?_eq_none (h : settings.source? key = none) :
    settings.get key = key.initial := by
  unfold source? at h
  simp only [List.find?_eq_none, Option.isSome_iff_ne_none, ne_eq, not_not] at h
  have : (Source.all.findSome? fun source => settings.given source key) = none :=
    List.findSome?_eq_none_iff.mpr h
  rw [get, this]
  rfl

/-- A value is a truth value when it reads as one. -/
theorem getBool_eq : settings.getBool key = match (settings.get key).asBool? with
    | some on => .ok on
    | none => .error (.notABool key (settings.getText key)) := by
  unfold getBool getText
  cases settings.get key <;> rfl

/-- What is forced is the value of its key, and of no other. -/
theorem get_force (value : Value) (k : Key) :
    (settings.force key value).get k = if k = key then value else settings.get k := by
  by_cases hkey : k = key <;> simp [get, force, Source.all, put_given, hkey]

theorem getText_force (value : Value) (k : Key) :
    (settings.force key value).getText k =
      if k = key then value.asText else settings.getText k := by
  rw [getText, get_force]
  split <;> rfl

end Settings

namespace Flags

variable (flags : Flags) (key : Key)

/-- The value that the flags give for a key: that of the last one that was typed. -/
def typedValue? : Option Value :=
  (flags.list.reverse.find? fun flag => flag.changed && Key.ofFlag? flag.name == some key).map
    (valueFor key)

/-- The flags write what was typed, and nothing to any other source. -/
theorem apply_given (settings : Settings) (source : Source) :
    (flags.apply settings).given source key =
      if source = .flag then flags.typedValue? key <|> settings.given source key
      else settings.given source key := by
  unfold apply typedValue?
  generalize flags.list = list
  induction list using List.reverseRecOn with
  | nil => simp
  | append_singleton flags flag ih =>
    rw [List.foldl_append, List.foldl_cons, List.foldl_nil, List.reverse_append]
    simp only [List.reverse_singleton, List.singleton_append, List.find?_cons]
    cases hchanged : flag.changed
    · simpa using ih
    · cases hkey : Key.ofFlag? flag.name with
      | none => simpa using ih
      | some written =>
        by_cases hsame : key = written
        · subst hsame
          by_cases hsource : source = .flag
          · simp [Settings.putFlag, Settings.put_given, hsource]
          · simpa [Settings.putFlag, Settings.put_given, hsource] using ih
        · have hother : (written == key) = false := beq_eq_false_iff_ne.mpr (Ne.symm hsame)
          simpa [Settings.putFlag, Settings.put_given, hsame, hother] using ih

/-- A value of the flags is that of a flag for the key that was typed. -/
theorem exists_of_typedValue? {value : Value} (h : flags.typedValue? key = some value) :
    ∃ flag ∈ flags.list, flag.changed = true ∧ key.flag? = some flag.name ∧
      valueFor key flag = value := by
  obtain ⟨flag, hfind, rfl⟩ := Option.map_eq_some_iff.mp h
  have hmem := List.mem_of_find?_eq_some hfind
  have htyped := List.find?_some hfind
  simp only [Bool.and_eq_true, beq_iff_eq] at htyped
  have hkey := List.find?_some htyped.2
  exact ⟨flag, List.mem_reverse.mp hmem, htyped.1, by simpa using hkey, rfl⟩

/-- Where no two flags share a name, a flag that was typed is noted as such. -/
theorem changed_of_mem {flag : Flag} (hdistinct : (flags.list.map Flag.name).Nodup)
    (hmem : flag ∈ flags.list) : flags.changed flag.name = flag.changed := by
  have hfind : flags.find? flag.name = some flag := find?_of_nodup_map hdistinct hmem
  simp [changed, hfind]

end Flags

/-- A configuration is made exactly when the artifacts directory has a name and the truth values
read as such; every field is the value of its key. -/
theorem RunConfiguration.ofSettings_eq_ok_iff {settings : Settings} {config : RunConfiguration} :
    ofSettings settings = .ok config ↔
      settings.getText .artifacts ≠ "" ∧ settings.getBool .submit = .ok config.submit ∧
      settings.getBool .insecure = .ok config.insecure ∧
      settings.getBool .junit = .ok config.junit ∧
      config = {
        projectId := settings.getText .projectId
        apiToken := ⟨settings.getText .apiToken⟩
        host := Pyxis.hostFor (settings.getText .environment) (settings.getText .host)
        environment := settings.getText .environment
        platform := settings.getText .platform
        submit := config.submit
        insecure := config.insecure
        dockerConfig := settings.getText .dockerConfig
        artifacts := settings.getText .artifacts
        logFile := settings.getText .logFile
        logLevel := settings.getText .logLevel
        junit := config.junit
        responseFormat := settings.getText .responseFormat } := by
  unfold ofSettings
  by_cases hartifacts : (settings.getText .artifacts).isEmpty
  · have : settings.getText .artifacts = "" := by simpa using hartifacts
    simp [this, throw, throwThe, MonadExceptOf.throw, bind, Except.bind]
  · have hnamed : settings.getText .artifacts ≠ "" := by simpa using hartifacts
    cases hsubmit : settings.getBool .submit <;> cases hinsecure : settings.getBool .insecure <;>
      cases hjunit : settings.getBool .junit <;>
      simp only [hnamed, ne_eq, not_false_eq_true, String.isEmpty_iff, bind, Except.bind, pure,
        Except.pure, if_false, reduceCtorEq, false_and, and_false, Except.ok.injEq, true_and]
    constructor
    · rintro rfl
      exact ⟨rfl, rfl, rfl, rfl⟩
    · rintro ⟨rfl, rfl, rfl, hconfig⟩
      exact hconfig.symm

end ContainerCert.Config

namespace ContainerCert.Program

open Config

/-- The settings of an invocation, source by source. -/
theorem settingsFor_given (file : File) (environment : String → Option String) (flags : Flags)
    (source : Source) (key : Key) :
    (settingsFor file environment flags).given source key = match source with
      | .override => none
      | .flag => flags.typedValue? key
      | .environment => Settings.fromEnvironment environment key
      | .file => file.value? key := by
  rw [settingsFor, Flags.apply_given, Settings.loadEnvironment_given, Settings.loadFile_given]
  cases source <;> simp [Settings.fresh]

end ContainerCert.Program
