import ContainerCert.Proofs.OverlaidFiles

/-!
# The history of settings

Settings come about by operations, each of which writes values to one source: one value, or those of
many keys at once. Whatever the order in which the sources are written to, the value of a key is the
last one written to the highest source that was ever written to for it, and a key that no source
was written to for has its initial value. So only the order of writes to the same source matters.
-/

namespace ContainerCert.Config

/-- What is done to settings. -/
inductive Operation where
  /-- A value is forced. -/
  | force (key : Key) (value : Value)
  /-- A flag that was typed is noted. -/
  | putFlag (key : Key) (value : Value)
  /-- The variables of an environment are read. -/
  | loadEnvironment (lookup : String → Option String)
  /-- A configuration file is read. -/
  | loadFile (file : File)

/-- The fields of a file with their keys, truth values first. -/
def File.keyedFields (file : File) : List (Key × Option Value) :=
  [(.submit, file.submit.map .switch), (.insecure, file.insecure.map .switch),
    (.junit, file.junit.map .switch), (.apiToken, file.apiToken.map .text),
    (.host, file.host.map .text), (.environment, file.environment.map .text),
    (.projectId, file.projectId.map .text), (.platform, file.platform.map .text),
    (.dockerConfig, file.dockerConfig.map .text), (.artifacts, file.artifacts.map .text),
    (.logFile, file.logFile.map .text), (.logLevel, file.logLevel.map .text),
    (.responseFormat, file.responseFormat.map .text)]

/-- A value that is written to a source for a key. -/
structure Write where
  source : Source
  key : Key
  value : Value
  deriving DecidableEq, Repr

namespace Write

/-- Do what was written to settings. -/
def apply (settings : Settings) (write : Write) : Settings :=
  settings.put write.source write.key write.value

end Write

namespace Operation

/-- Do the operation. -/
def apply (settings : Settings) : Operation → Settings
  | .force key value => settings.force key value
  | .putFlag key value => settings.putFlag key value
  | .loadEnvironment lookup => settings.loadEnvironment lookup
  | .loadFile file => settings.loadFile file

/-- What the operation writes: a variable that is empty writes nothing, nor does a field of a file
that has no value. -/
def writes : Operation → List Write
  | .force key value => [⟨.override, key, value⟩]
  | .putFlag key value => [⟨.flag, key, value⟩]
  | .loadEnvironment lookup => Key.all.filterMap fun key =>
      ((lookup key.environmentVariable).filter (· ≠ "")).map fun content =>
        ⟨.environment, key, .text content⟩
  | .loadFile file => file.keyedFields.filterMap fun (key, field) =>
      field.map fun value => ⟨.file, key, value⟩

end Operation

/-- Fresh settings after some operations, one after the other. -/
def Settings.ofOperations (operations : List Operation) : Settings :=
  operations.foldl Operation.apply .fresh

/-- All that some operations write, in order. -/
def history (operations : List Operation) : List Write :=
  operations.flatMap Operation.writes

/-- The values that are written to a source for a key, in order. -/
def valuesOf (source : Source) (key : Key) (writes : List Write) : List Value :=
  ((writes.filter (·.source = source)).filter (·.key = key)).map Write.value

/-- How high a source is: overrides above flags, above the environment, above the file. -/
def Source.rank : Source → Nat
  | .override => 4
  | .flag => 3
  | .environment => 2
  | .file => 1

/-- The source is the highest one written to for the key, with this value as the last. -/
def Decides (writes : List Write) (key : Key) (source : Source) (value : Value) : Prop :=
  (valuesOf source key writes).getLast? = some value ∧
    ∀ other, valuesOf other key writes ≠ [] → other.rank ≤ source.rank

/-- No source is written to for the key. -/
def Untouched (writes : List Write) (key : Key) : Prop :=
  ∀ source, valuesOf source key writes = []

/-- The same is written to each source in the same order; in which order the sources are written to
does not matter. -/
def AgreeBySource (writes others : List Write) : Prop :=
  ∀ source, writes.filter (·.source = source) = others.filter (·.source = source)

/-- What an environment gives for a key is the content of its variable, if that is not empty. -/
theorem Settings.fromEnvironment_eq (lookup : String → Option String) (key : Key) :
    fromEnvironment lookup key =
      ((lookup key.environmentVariable).filter (· ≠ "")).map .text := by
  unfold fromEnvironment
  cases hvalue : lookup key.environmentVariable with
  | none => rfl
  | some content => by_cases hempty : content = "" <;> simp [hempty, Option.filter]

/-- The entries of a file are what its fields say. -/
theorem File.entries_eq (file : File) :
    file.entries = file.keyedFields.filterMap fun (key, field) =>
      field.map fun value => (key, value) := by
  have hfields : file.keyedFields = entryOrder.map fun key => (key, file.value? key) := rfl
  rw [hfields, List.filterMap_map]
  rfl

/-- A file writes its entries. -/
theorem Operation.writes_loadFile (file : File) :
    (loadFile file).writes = file.entries.map fun (key, value) => ⟨.file, key, value⟩ := by
  rw [writes, File.entries_eq, List.map_filterMap]
  congr 1
  funext ⟨key, field⟩
  cases field <;> rfl

/-- A file writes what the fields with the names of the keys hold. -/
theorem Operation.mem_writes_loadFile {file : File} {write : Write} :
    write ∈ (loadFile file).writes ↔
      write.source = .file ∧ file.Holds write.key.name write.value := by
  rw [writes_loadFile, List.mem_map, File.holds_name_iff, ← File.mem_entries_iff]
  constructor
  · rintro ⟨_, hmem, rfl⟩
    exact ⟨rfl, hmem⟩
  · rcases write with ⟨source, key, value⟩
    rintro ⟨rfl, hmem⟩
    exact ⟨_, hmem, rfl⟩

/-- An environment writes the content of every variable that is not empty. -/
theorem Operation.mem_writes_loadEnvironment {lookup : String → Option String} {write : Write} :
    write ∈ (loadEnvironment lookup).writes ↔ write.source = .environment ∧
      ∃ content, lookup write.key.environmentVariable = some content ∧ content ≠ "" ∧
        write.value = .text content := by
  simp only [writes, List.mem_filterMap, Option.map_eq_some_iff, Option.filter_eq_some_iff,
    decide_eq_true_eq]
  constructor
  · rintro ⟨key, -, content, ⟨hcontent, hne⟩, rfl⟩
    exact ⟨rfl, content, hcontent, hne, rfl⟩
  · rcases write with ⟨source, key, value⟩
    rintro ⟨rfl, content, hcontent, hne, rfl⟩
    exact ⟨key, key.mem_all, content, ⟨hcontent, hne⟩, rfl⟩

/-- An operation does what it writes. -/
theorem Operation.apply_eq (settings : Settings) (operation : Operation) :
    operation.apply settings = operation.writes.foldl Write.apply settings := by
  cases operation with
  | force key value => rfl
  | putFlag key value => rfl
  | loadFile file => rw [writes_loadFile, List.foldl_map]; rfl
  | loadEnvironment lookup =>
    rw [writes, List.foldl_filterMap, apply, Settings.loadEnvironment]
    congr 1
    funext settings key
    rw [Settings.fromEnvironment_eq]
    cases (lookup key.environmentVariable).filter (· ≠ "") <;> rfl

/-- Operations do what they write, write by write. -/
theorem Settings.ofOperations_eq (operations : List Operation) :
    ofOperations operations = (history operations).foldl Write.apply fresh := by
  rw [ofOperations, history, List.foldl_flatMap]
  congr 1
  funext settings operation
  exact operation.apply_eq settings

theorem valuesOf_cons (source : Source) (key : Key) (write : Write) (writes : List Write) :
    valuesOf source key (write :: writes) =
      (if source = write.source ∧ key = write.key then [write.value] else []) ++
        valuesOf source key writes := by
  by_cases hsource : source = write.source
  · by_cases hkey : key = write.key
    · simp [valuesOf, hsource, hkey]
    · simp [valuesOf, hsource, hkey, Ne.symm hkey]
  · simp [valuesOf, hsource, Ne.symm hsource]

/-- A source gives the last value written to it for a key, or else what it gave before. -/
theorem foldl_apply_given (settings : Settings) (writes : List Write) (source : Source)
    (key : Key) : (writes.foldl Write.apply settings).given source key =
      ((valuesOf source key writes).getLast? <|> settings.given source key) := by
  induction writes generalizing settings with
  | nil => rfl
  | cons write writes ih =>
    rw [List.foldl_cons, ih, valuesOf_cons, List.getLast?_append, Write.apply, Settings.put_given]
    -- The first write counts only where none of the later ones goes to the same source and key.
    cases (valuesOf source key writes).getLast? with
    | some value => rfl
    | none => split <;> rfl

/-- Where sources are listed from the highest on, the first that passes a test is the highest that
does. -/
theorem Source.find?_eq_some_iff {test : Source → Bool} {sources : List Source} {source : Source}
    (hranks : sources.Pairwise fun higher lower => lower.rank < higher.rank) :
    sources.find? test = some source ↔ source ∈ sources ∧ test source = true ∧
      ∀ other ∈ sources, test other = true → other.rank ≤ source.rank := by
  induction sources with
  | nil => simp
  | cons first rest ih =>
    obtain ⟨hfirst, hrest⟩ := List.pairwise_cons.mp hranks
    by_cases htest : test first = true
    · rw [List.find?_cons_of_pos htest, Option.some.injEq]
      constructor
      · rintro rfl
        refine ⟨List.mem_cons_self, htest, fun other hother _ => ?_⟩
        rcases List.mem_cons.mp hother with rfl | hother
        · exact Nat.le_refl _
        · exact Nat.le_of_lt (hfirst other hother)
      · rintro ⟨hmem, -, hhighest⟩
        rcases List.mem_cons.mp hmem with rfl | hmem
        · rfl
        · have hlower := hfirst source hmem
          have hhigher := hhighest first List.mem_cons_self htest
          omega
    · rw [List.find?_cons_of_neg htest, ih hrest]
      constructor
      · rintro ⟨hmem, hsource, hhighest⟩
        refine ⟨List.mem_cons_of_mem first hmem, hsource, fun other hother hpasses => ?_⟩
        rcases List.mem_cons.mp hother with rfl | hother
        · exact absurd hpasses htest
        · exact hhighest other hother hpasses
      · rintro ⟨hmem, hsource, hhighest⟩
        rcases List.mem_cons.mp hmem with rfl | hmem
        · exact absurd hsource htest
        · exact ⟨hmem, hsource, fun other hother =>
            hhighest other (List.mem_cons_of_mem first hother)⟩

namespace Settings

variable (settings : Settings) (key : Key)

/-- After some operations a source gives the last value that they wrote to it for a key. -/
theorem ofOperations_given (operations : List Operation) (source : Source) :
    (ofOperations operations).given source key =
      (valuesOf source key (history operations)).getLast? := by
  rw [ofOperations_eq, foldl_apply_given]
  cases (valuesOf source key (history operations)).getLast? <;> rfl

/-- A source decides a key when it gives a value for it and no higher one does. -/
theorem source?_eq_some_iff {source : Source} :
    settings.source? key = some source ↔ settings.given source key ≠ none ∧
      ∀ other, settings.given other key ≠ none → other.rank ≤ source.rank := by
  rw [source?, Source.find?_eq_some_iff (by decide)]
  simp only [Source.mem_all, Option.isSome_iff_ne_none, true_and, true_implies]

/-- No source decides a key when none gives a value for it. -/
theorem source?_eq_none_iff :
    settings.source? key = none ↔ ∀ source, settings.given source key = none := by
  simp only [source?, List.find?_eq_none, Source.mem_all, true_implies,
    Option.isSome_iff_ne_none, ne_eq, not_not]

end Settings

section
variable {operations others : List Operation} {key : Key} {source : Source} {value : Value}

theorem given_ne_none_iff :
    (Settings.ofOperations operations).given source key ≠ none ↔
      valuesOf source key (history operations) ≠ [] := by
  rw [Settings.ofOperations_given, ne_eq, List.getLast?_eq_none_iff]

/-- The value of a key and its source are those that the history of writes decides. -/
theorem decides_iff :
    Decides (history operations) key source value ↔
      (Settings.ofOperations operations).source? key = some source ∧
        (Settings.ofOperations operations).get key = value := by
  have hsource : (Settings.ofOperations operations).source? key = some source ↔
      valuesOf source key (history operations) ≠ [] ∧
        ∀ other, valuesOf other key (history operations) ≠ [] → other.rank ≤ source.rank := by
    simp only [Settings.source?_eq_some_iff, given_ne_none_iff]
  constructor
  · rintro ⟨hlast, hhighest⟩
    have hwritten : valuesOf source key (history operations) ≠ [] := by
      intro hnone
      simp [hnone] at hlast
    have hdecides := hsource.mpr ⟨hwritten, hhighest⟩
    have hgiven := Settings.given_of_source? _ key hdecides
    rw [Settings.ofOperations_given, hlast] at hgiven
    exact ⟨hdecides, (Option.some.inj hgiven).symm⟩
  · rintro ⟨hdecides, rfl⟩
    refine ⟨?_, (hsource.mp hdecides).2⟩
    rw [← Settings.ofOperations_given]
    exact Settings.given_of_source? _ key hdecides

theorem untouched_iff :
    Untouched (history operations) key ↔ (Settings.ofOperations operations).source? key = none := by
  rw [Settings.source?_eq_none_iff]
  simp only [Settings.ofOperations_given, List.getLast?_eq_none_iff, Untouched]

/-- Writes that agree source by source make the same settings. -/
theorem ofOperations_eq_of_agree (h : AgreeBySource (history operations) (history others)) :
    Settings.ofOperations operations = Settings.ofOperations others := by
  have hgiven :
      (Settings.ofOperations operations).given = (Settings.ofOperations others).given := by
    funext source key
    rw [Settings.ofOperations_given, Settings.ofOperations_given, valuesOf, valuesOf, h source]
  exact congrArg Settings.mk hgiven

end

/-- There is always a host of the service. -/
theorem hostFor_ne_empty (environment given : String) : Pyxis.hostFor environment given ≠ "" := by
  unfold Pyxis.hostFor
  split
  · cases (Pyxis.Environment.ofName? environment).getD .production <;> decide
  · next h => simpa using h

/-- After any operations on fresh settings, the value of a key is the last one written to the
highest source that was written to for it, and its source is that one. An environment writes what
its variables contain, if anything, and a file what its fields hold. A key counts as unset exactly
when no source was written to for it, and then it has its initial value. Where others write the same
to each source, in whatever order they turn from one source to another, all that the settings give
is the same, and so is the configuration. A configuration has a host and an artifacts directory. -/
theorem highest_writer_decides (operations : List Operation) :
    (∀ lookup write, write ∈ (Operation.loadEnvironment lookup).writes ↔
      write.source = .environment ∧ ∃ content,
        lookup write.key.environmentVariable = some content ∧ content ≠ "" ∧
          write.value = .text content) ∧
    (∀ file write, write ∈ (Operation.loadFile file).writes ↔
      write.source = .file ∧ file.Holds write.key.name write.value) ∧
    (∀ key source value, Decides (history operations) key source value ↔
      (Settings.ofOperations operations).source? key = some source ∧
        (Settings.ofOperations operations).get key = value) ∧
    (∀ key, Untouched (history operations) key ↔
      (Settings.ofOperations operations).isSet key = false) ∧
    (∀ key, Untouched (history operations) key →
      (Settings.ofOperations operations).source? key = none ∧
        (Settings.ofOperations operations).get key = key.initial) ∧
    (∀ others, AgreeBySource (history operations) (history others) →
      (∀ key, (Settings.ofOperations operations).get key = (Settings.ofOperations others).get key ∧
        (Settings.ofOperations operations).source? key =
          (Settings.ofOperations others).source? key ∧
        (Settings.ofOperations operations).isSet key = (Settings.ofOperations others).isSet key ∧
        (Settings.ofOperations operations).getText key =
          (Settings.ofOperations others).getText key ∧
        (Settings.ofOperations operations).getBool key =
          (Settings.ofOperations others).getBool key) ∧
      RunConfiguration.ofSettings (Settings.ofOperations operations) =
        RunConfiguration.ofSettings (Settings.ofOperations others)) ∧
    ∀ config, RunConfiguration.ofSettings (Settings.ofOperations operations) = .ok config →
      config.host ≠ "" ∧ config.artifacts ≠ "" := by
  refine ⟨fun _ _ => Operation.mem_writes_loadEnvironment,
    fun _ _ => Operation.mem_writes_loadFile, fun _ _ _ => decides_iff, fun key => ?_,
    fun key h => ?_, fun others h => ?_, fun config h => ?_⟩
  · rw [untouched_iff, Settings.isSet, Option.isSome_eq_false_iff, Option.isNone_iff_eq_none]
  · have hnone := untouched_iff.mp h
    exact ⟨hnone, Settings.get_of_source?_eq_none _ key hnone⟩
  · rw [ofOperations_eq_of_agree h]
    exact ⟨fun _ => ⟨rfl, rfl, rfl, rfl, rfl⟩, rfl⟩
  · obtain ⟨hartifacts, -, -, -, hconfig⟩ := RunConfiguration.ofSettings_eq_ok_iff.mp h
    rw [hconfig]
    exact ⟨hostFor_ne_empty _ _, hartifacts⟩

/-- A platform that was typed counts, also where the environment is read after it; a file may be
read before both or after them, and decides the level of the log, which only it gives. A variable
that is empty leaves the host as it was. -/
theorem highest_writer_decides_late_file :
    let file := Operation.loadFile
      { File.empty with platform := some "s390x", logLevel := some "debug" }
    let environment := Operation.loadEnvironment fun name =>
      if name = "PFLT_PLATFORM" then some "arm64"
      else if name = "PFLT_ARTIFACTS" then some "out"
      else if name = "PFLT_PYXIS_HOST" then some ""
      else none
    let typed := Operation.putFlag .platform (.text "ppc64le")
    let operations := [file, typed, environment]
    let others := [typed, environment, file]
    Decides (history operations) .platform .flag (.text "ppc64le") ∧
      Decides (history operations) .logLevel .file (.text "debug") ∧
      Decides (history operations) .artifacts .environment (.text "out") ∧
      Untouched (history operations) .host ∧ AgreeBySource (history operations) (history others) ∧
      (Settings.ofOperations others).get .platform = .text "ppc64le" ∧
      (Settings.ofOperations others).get .logLevel = .text "debug" ∧
      (Settings.ofOperations others).get .artifacts = .text "out" ∧
      (Settings.ofOperations operations).get .host = .text "" ∧
      ∃ config, RunConfiguration.ofSettings (Settings.ofOperations operations) = .ok config ∧
        config.host ≠ "" := by
  intro file environment typed operations others
  obtain ⟨-, -, hdecides, huntouched, hinitial, hagree, hconfig⟩ :=
    highest_writer_decides operations
  have hwrites : history operations = [⟨.file, .platform, .text "s390x"⟩,
      ⟨.file, .logLevel, .text "debug"⟩, ⟨.flag, .platform, .text "ppc64le"⟩,
      ⟨.environment, .platform, .text "arm64"⟩, ⟨.environment, .artifacts, .text "out"⟩] := by
    decide +kernel
  have hothers : history others = [⟨.flag, .platform, .text "ppc64le"⟩,
      ⟨.environment, .platform, .text "arm64"⟩, ⟨.environment, .artifacts, .text "out"⟩,
      ⟨.file, .platform, .text "s390x"⟩, ⟨.file, .logLevel, .text "debug"⟩] := by
    decide +kernel
  have hplatform : Decides (history operations) .platform .flag (.text "ppc64le") := by
    rw [hwrites]
    exact ⟨by decide +kernel, by rintro (_ | _ | _ | _) <;> decide +kernel⟩
  have hlevel : Decides (history operations) .logLevel .file (.text "debug") := by
    rw [hwrites]
    exact ⟨by decide +kernel, by rintro (_ | _ | _ | _) <;> decide +kernel⟩
  have hartifacts : Decides (history operations) .artifacts .environment (.text "out") := by
    rw [hwrites]
    exact ⟨by decide +kernel, by rintro (_ | _ | _ | _) <;> decide +kernel⟩
  have hhost : Untouched (history operations) .host := (huntouched _).mpr (by decide +kernel)
  have hsame : AgreeBySource (history operations) (history others) := by
    rw [hwrites, hothers]
    rintro (_ | _ | _ | _) <;> decide +kernel
  have hget {key source value} (h : Decides (history operations) key source value) :
      (Settings.ofOperations others).get key = value := by
    rw [← ((hagree others hsame).1 key).1]
    exact ((hdecides _ _ _).mp h).2
  refine ⟨hplatform, hlevel, hartifacts, hhost, hsame, hget hplatform, hget hlevel,
    hget hartifacts, (hinitial _ hhost).2, ?_⟩
  let config : RunConfiguration :=
    ⟨"", ⟨""⟩, Pyxis.hostFor "prod" "", "prod", "ppc64le", false, false, "", "out",
      "preflight.log", "debug", false, "json"⟩
  have hok : RunConfiguration.ofSettings (Settings.ofOperations operations) = .ok config := by
    decide +kernel
  exact ⟨config, hok, (hconfig config hok).1⟩

end ContainerCert.Config
