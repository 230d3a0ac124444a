import ContainerCert.Program
import ContainerCert.Proofs.ArgumentParts
import ContainerCert.Proofs.SettingsHistory

/-!
# Values that were typed

A key that was typed resolves to what was typed, an empty text included. Any other key resolves to
its environment variable, if that is not empty, or else to the configuration file, or else to its
initial value. A flag is noted as typed exactly where it decides its key, so the value that the
command line itself fills in for an option that was not typed hides nothing.
-/

namespace ContainerCert

open Config

/-- A flag belongs to the key that has its name. -/
theorem Config.Key.ofFlag?_eq_some_iff {key : Key} {name : String} :
    Key.ofFlag? name = some key ↔ key.flag? = some name := by
  constructor
  · intro h
    simpa using List.find?_some h
  · intro h
    cases key <;> cases h <;> rfl

/-- A flag whose name no other has gives its key a value where it was typed. -/
theorem Config.Flags.typedValue?_of_mem (flags : Flags) {flag : Flag} {key : Key}
    (hdistinct : (flags.list.map Flag.name).Nodup) (hmem : flag ∈ flags.list)
    (hname : key.flag? = some flag.name) :
    flags.typedValue? key = if flag.changed then some (valueFor key flag) else .none := by
  cases hvalue : flags.typedValue? key with
  | none =>
    rw [typedValue?, Option.map_eq_none_iff, List.find?_eq_none] at hvalue
    have hunchanged := hvalue flag (List.mem_reverse.mpr hmem)
    rw [Key.ofFlag?_eq_some_iff.mpr hname] at hunchanged
    rw [if_neg (by simpa using hunchanged)]
  | some value =>
    obtain ⟨other, hother, hchanged, hothername, rfl⟩ := flags.exists_of_typedValue? key hvalue
    obtain rfl : other = flag :=
      List.inj_on_of_nodup_map hdistinct hother hmem (Option.some.inj (hothername.symm.trans hname))
    rw [if_pos hchanged]

namespace CommandLine

/-- The value that a part of the command line gives for a key. -/
def Part.value? (key : Key) : Part → Option Value
  | .switched switches =>
    ((switchFor? key).filter (· ∈ switches)).map fun _ => .switch true
  | .valued option content => if optionFor? key = some option then some (.text content) else none
  | .image _ => none
  | .terminator => none

variable {typed : Typed} {parts : List Part} {key : Key} {name : String} {value : Value}

theorem mem_flagsOf_iff {flag : Flag} : flag ∈ (flagsOf typed).list ↔
    ∃ key name, key.flag? = some name ∧ flag = flagFor typed key name := by
  simp only [flagsOf, List.mem_filterMap, Key.mem_all, true_and, Option.map_eq_some_iff]
  constructor
  · rintro ⟨key, name, hname, rfl⟩
    exact ⟨key, name, hname, rfl⟩
  · rintro ⟨key, name, hname, rfl⟩
    exact ⟨key, name, hname, rfl⟩

theorem flagFor_name (typed : Typed) (key : Key) (name : String) :
    (flagFor typed key name).name = name := by
  unfold flagFor
  split
  · rfl
  · split <;> rfl
  · rfl

/-- The flags of keys have different names. -/
theorem nodup_names_flagsOf (typed : Typed) : ((flagsOf typed).list.map Flag.name).Nodup := by
  have hnames : (flagsOf typed).list.map Flag.name = Key.all.filterMap Key.flag? := by
    simp only [flagsOf, List.map_filterMap, Option.map_map, Function.comp_def, flagFor_name,
      Option.map_id']
  rw [hnames]
  decide

/-- A flag is noted as typed as its own key says. -/
theorem changed_flagsOf (hname : key.flag? = some name) :
    (flagsOf typed).changed name = (flagFor typed key name).changed := by
  have hchanged := (flagsOf typed).changed_of_mem (nodup_names_flagsOf typed)
    (mem_flagsOf_iff.mpr ⟨key, name, hname, rfl⟩)
  rwa [flagFor_name] at hchanged

/-- Where no option was typed twice, its value is the one that it was typed with. -/
theorem Typed.value?_eq_some_iff (honce : typed.Once) {option : ValueOption} {content : String} :
    typed.value? option = some content ↔ (option, content) ∈ typed.values := by
  rw [value?, Option.map_eq_some_iff]
  constructor
  · rintro ⟨⟨other, _⟩, hfind, rfl⟩
    obtain rfl : other = option := by simpa using List.find?_some hfind
    exact List.mem_of_find?_eq_some hfind
  · intro hmem
    exact ⟨(option, content), find?_of_nodup_map honce.values hmem, rfl⟩

/-- A part gives a value for the key of a switch where it has the switch. -/
theorem exists_value?_of_switch {switch : Switch} (hswitch : switchFor? key = some switch) :
    (∃ part ∈ parts, part.value? key = some value) ↔
      switch ∈ (Typed.ofParts parts).switches ∧ value = .switch true := by
  have hoption : optionFor? key = none := by cases key <;> cases hswitch <;> rfl
  rw [mem_switches_ofParts]
  constructor
  · rintro ⟨part, hpart, hvalue⟩
    cases part with
    | switched switches =>
      simp only [Part.value?, hswitch, Option.map_eq_some_iff, Option.filter_eq_some_iff] at hvalue
      obtain ⟨_, ⟨hsame, hmem⟩, rfl⟩ := hvalue
      cases hsame
      exact ⟨⟨switches, hpart, of_decide_eq_true hmem⟩, rfl⟩
    | valued => simp [Part.value?, hoption] at hvalue
    | image | terminator => cases hvalue
  · rintro ⟨⟨switches, hpart, hmem⟩, rfl⟩
    exact ⟨_, hpart, by simp [Part.value?, hswitch, hmem]⟩

/-- A part gives a value for the key of an option where it has the option with this value. -/
theorem exists_value?_of_option {option : ValueOption} (hoption : optionFor? key = some option) :
    (∃ part ∈ parts, part.value? key = some value) ↔
      ∃ content, (option, content) ∈ (Typed.ofParts parts).values ∧ value = .text content := by
  have hswitch : switchFor? key = none := by cases key <;> cases hoption <;> rfl
  simp only [mem_values_ofParts]
  constructor
  · rintro ⟨part, hpart, hvalue⟩
    cases part with
    | switched => simp [Part.value?, hswitch] at hvalue
    | valued other content =>
      simp only [Part.value?, hoption, Option.some.injEq] at hvalue
      split at hvalue
      · next hsame =>
        cases hvalue
        exact ⟨content, hsame ▸ hpart, rfl⟩
      · cases hvalue
    | image | terminator => cases hvalue
  · rintro ⟨content, hpart, rfl⟩
    exact ⟨_, hpart, by simp [Part.value?, hoption]⟩

/-- A flag gives its key what a part of the command line gives for it. -/
theorem flagFor_gives_iff (honce : (Typed.ofParts parts).Once) (hname : key.flag? = some name) :
    ((flagFor (.ofParts parts) key name).changed = true ∧
        Flags.valueFor key (flagFor (.ofParts parts) key name) = value) ↔
      ∃ part ∈ parts, part.value? key = some value := by
  cases hswitch : switchFor? key with
  | some switch =>
    have hkind : key.isSwitch = true := by cases key <;> cases hswitch <;> rfl
    rw [exists_value?_of_switch hswitch]
    simp only [flagFor, hswitch, Flags.valueFor, hkind, if_true, decide_eq_true_eq]
    refine and_congr_right fun hmem => ?_
    simp [hmem, eq_comm]
  | none =>
    obtain ⟨option, hoption⟩ : ∃ option, optionFor? key = some option := by
      cases key <;> simp_all [switchFor?, optionFor?, Key.flag?]
    have hkind : key.isSwitch = false := by cases key <;> cases hoption <;> rfl
    rw [exists_value?_of_option hoption]
    simp only [← Typed.value?_eq_some_iff honce, flagFor, hswitch, hoption]
    cases Typed.value? (.ofParts parts) option with
    | none => simp
    | some content => simp [Flags.valueFor, hkind, eq_comm]

/-- A part gives values only for keys that have a flag. -/
theorem exists_flag_of_value? {part : Part} (h : part.value? key = some value) :
    ∃ name, key.flag? = some name := by
  rw [← Option.ne_none_iff_exists']
  intro hnone
  have hswitch : switchFor? key = none := by cases key <;> first | rfl | cases hnone
  have hoption : optionFor? key = none := by cases key <;> first | rfl | cases hnone
  cases part <;> simp [Part.value?, hswitch, hoption] at h

/-- What the flags give for a key is what a part of the command line gives for it. -/
theorem typedValue?_flagsOf (honce : (Typed.ofParts parts).Once) :
    (flagsOf (.ofParts parts)).typedValue? key = some value ↔
      ∃ part ∈ parts, part.value? key = some value := by
  cases hname : key.flag? with
  | none =>
    constructor
    · intro hvalue
      obtain ⟨_, _, _, hflag, _⟩ := Flags.exists_of_typedValue? _ _ hvalue
      simp [hname] at hflag
    · rintro ⟨part, _, hvalue⟩
      obtain ⟨_, hflag⟩ := exists_flag_of_value? hvalue
      simp [hname] at hflag
  | some name =>
    have hvalue := (flagsOf (.ofParts parts)).typedValue?_of_mem (nodup_names_flagsOf _)
      (mem_flagsOf_iff.mpr ⟨key, name, hname, rfl⟩) (by rw [flagFor_name, hname])
    rw [hvalue, ← flagFor_gives_iff honce hname]
    simp

/-- A flag is noted as typed exactly where a part of the command line gives its key a value. -/
theorem changed_flagsOf_iff (honce : (Typed.ofParts parts).Once) (hname : key.flag? = some name) :
    (flagsOf (.ofParts parts)).changed name = true ↔ ∃ part ∈ parts, part.value? key ≠ none := by
  rw [changed_flagsOf hname]
  constructor
  · intro hchanged
    obtain ⟨part, hpart, hvalue⟩ := (flagFor_gives_iff honce hname).mp ⟨hchanged, rfl⟩
    exact ⟨part, hpart, by simp [hvalue]⟩
  · rintro ⟨part, hpart, hgiven⟩
    obtain ⟨value, hvalue⟩ := Option.ne_none_iff_exists'.mp hgiven
    exact ((flagFor_gives_iff honce hname).mpr ⟨part, hpart, hvalue⟩).1

/-- The flag of an option that was not typed has the value that the command line fills in. -/
theorem find?_of_untyped {option : ValueOption} (hname : key.flag? = some name)
    (hoption : optionFor? key = some option) (huntyped : Typed.value? typed option = none) :
    (flagsOf typed).find? name = some ⟨name, option.untyped, false⟩ := by
  have hswitch : switchFor? key = none := by cases key <;> cases hoption <;> rfl
  have hflag : flagFor typed key name = ⟨name, option.untyped, false⟩ := by
    simp only [flagFor, hswitch, hoption, huntyped]
  exact find?_of_nodup_map (nodup_names_flagsOf typed)
    (mem_flagsOf_iff.mpr ⟨key, name, hname, hflag.symm⟩)

end CommandLine

namespace Program

open CommandLine

variable (file : Config.File) (environment : String → Option String) (flags : Flags) (key : Key)

/-- The value of a key for an invocation: what was typed counts first. -/
theorem settingsFor_get : (settingsFor file environment flags).get key =
    (flags.typedValue? key <|> Settings.fromEnvironment environment key <|>
      file.value? key).getD key.initial := by
  simp only [Settings.get, Source.all, settingsFor_given, List.findSome?_cons, List.findSome?_nil]
  cases flags.typedValue? key with
  | some value => rfl
  | none =>
    cases Settings.fromEnvironment environment key with
    | some value => rfl
    | none => cases file.value? key <;> rfl

/-- The flags decide the keys for which something was typed. -/
theorem settingsFor_source?_eq_flag_iff :
    (settingsFor file environment flags).source? key = some .flag ↔
      flags.typedValue? key ≠ none := by
  rw [Settings.source?_eq_some_iff, settingsFor_given]
  refine and_iff_left fun other hgiven => ?_
  cases other with
  | override => simp [settingsFor_given] at hgiven
  | flag | environment | file => decide

/-- Where a command line is understood, it falls into parts in one way, and the parts on the lowest
level say what was typed there. A key that was typed has the value that was typed, an empty text
included; a key that was not has the value of its environment variable, if that is not empty, or
else that of the file, or else its initial value. A flag is noted as typed exactly where the flags
decide its key. So where no environment of the service was typed, its flag is filled in and not
noted, and the key is left to the environment variable and the file. -/
theorem typed_value_decides {arguments : List String} {line : CommandLine}
    (hline : parse arguments = .ok line) :
    ∃ above between parts, Reads .program arguments [above, between, parts] ∧
      (∀ others, Reads .program arguments others → others = [above, between, parts]) ∧
      (∀ part ∈ parts, ∀ key value, part.value? key = some value →
        (settingsFor file environment line.flags).get key = value) ∧
      (∀ key, (∀ part ∈ parts, part.value? key = none) →
        (settingsFor file environment line.flags).get key =
          (((environment key.environmentVariable).filter (· ≠ "")).map Value.text <|>
            file.value? key).getD key.initial) ∧
      (∀ key name, key.flag? = some name →
        (line.flags.changed name = true ↔ ∃ part ∈ parts, part.value? key ≠ none) ∧
        (line.flags.changed name = true ↔
          (settingsFor file environment line.flags).source? key = some .flag)) ∧
      ((∀ part ∈ parts, part.value? .environment = none) →
        line.flags.find? "pyxis-env" = some ⟨"pyxis-env", "prod", false⟩) := by
  obtain ⟨above, between, parts, hreads, rfl, honce⟩ := exists_reads_of_parse hline
  have hflags : (ofLevels [.ofParts above, .ofParts between, .ofParts parts]).flags =
      flagsOf (.ofParts parts) := rfl
  simp only [hflags]
  refine ⟨above, between, parts, hreads, fun others hothers => hothers.unique hreads, ?_, ?_, ?_,
    ?_⟩
  · intro part hpart key value hvalue
    rw [settingsFor_get, (typedValue?_flagsOf honce).mpr ⟨part, hpart, hvalue⟩]
    rfl
  · intro key huntyped
    have hnone : (flagsOf (.ofParts parts)).typedValue? key = none := by
      refine Option.eq_none_iff_forall_ne_some.mpr fun value hvalue => ?_
      obtain ⟨part, hpart, hgives⟩ := (typedValue?_flagsOf honce).mp hvalue
      simp [huntyped part hpart] at hgives
    rw [settingsFor_get, hnone, ← Settings.fromEnvironment_eq]
    rfl
  · intro key name hname
    have hchanged := changed_flagsOf_iff honce hname
    refine ⟨hchanged, ?_⟩
    simp only [settingsFor_source?_eq_flag_iff, hchanged, Option.ne_none_iff_exists',
      typedValue?_flagsOf honce]
    exact ⟨fun ⟨part, hpart, value, h⟩ => ⟨value, part, hpart, h⟩,
      fun ⟨value, part, hpart, h⟩ => ⟨part, hpart, value, h⟩⟩
  · intro huntyped
    refine @find?_of_untyped _ .environment _ _ rfl rfl ?_
    refine Option.eq_none_iff_forall_ne_some.mpr fun content hvalue => ?_
    rw [Typed.value?_eq_some_iff honce, mem_values_ofParts] at hvalue
    simpa [Part.value?, optionFor?] using huntyped _ hvalue

/-- An empty platform that was typed hides the variable, and the environment that was not typed
hides nothing. -/
theorem typed_value_decides_empty_platform :
    let environment := fun name => if name = "PFLT_PLATFORM" then some "arm64"
      else if name = "PFLT_PYXIS_ENV" then some "uat" else none
    let file := { Config.File.empty with environment := some "qa", host := some "example.org" }
    ∃ line, parse ["check", "container", "--platform", "", "-s", "busybox"] = .ok line ∧
      line.flags.changed "pyxis-env" = false ∧
      (settingsFor file environment line.flags).get .platform = .text "" ∧
      (settingsFor file environment line.flags).get .submit = .switch true ∧
      (settingsFor file environment line.flags).get .environment = .text "uat" ∧
      (settingsFor file environment line.flags).get .host = .text "example.org" := by
  intro environment file
  have hplatform : Progress.Word.of "--platform" = .long "platform" none := by decide +kernel
  have hletter : Progress.Word.of "-s" = .shorts ['s'] := by decide +kernel
  have hreads : Reads .program ["check", "container", "--platform", "", "-s", "busybox"]
      [[], [], [.valued .platform "", .switched [.submit], .image "busybox"]] :=
    .command rfl (.command rfl (.separate hplatform (by decide) (.inl rfl)
      (.shorts hletter (.cons (by decide) .nil) (.image (by decide +kernel) .nothing))))
  obtain ⟨line, hline⟩ :
      ∃ line, parse ["check", "container", "--platform", "", "-s", "busybox"] = .ok line :=
    ⟨_, rfl⟩
  obtain ⟨above, between, parts, -, hunique, htyped, huntyped, hchanged, -⟩ :=
    typed_value_decides file environment hline
  obtain ⟨-, -, rfl⟩ : [] = above ∧ [] = between ∧ _ = parts := by
    simpa using hunique _ hreads
  refine ⟨line, hline, ?_, ?_, ?_, ?_, ?_⟩
  · rw [← Bool.not_eq_true, (hchanged .environment _ rfl).1]
    decide
  · exact htyped (.valued .platform "") (by decide) _ _ rfl
  · exact htyped (.switched [.submit]) (by decide) _ _ rfl
  · rw [huntyped .environment (by decide)]
    decide +kernel
  · rw [huntyped .host (by decide)]
    decide +kernel

end Program
end ContainerCert
