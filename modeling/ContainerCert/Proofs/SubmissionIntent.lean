import ContainerCert.Proofs.OrderedRules
import ContainerCert.Proofs.TypedValues

/-!
# The wish to submit

The argument that asks for a submission may stand where it is the value of another option. On the
levels above the lowest it cannot stand at all, and on the lowest it is the switch or such a value.
Either way the request asks for a submission, so it is refused or becomes one; and a value that
looks like a flag is refused as a credential.
-/

namespace ContainerCert

open Config

namespace CommandLine

/-- The argument that asks for a submission is among the parts: as the switch, or as the value of
another option. -/
def HoldsMarker (parts : List Part) : Prop :=
  .switched [.submit] ∈ parts ∨
    ∃ option : ValueOption, option ≠ .config ∧ .valued option Flags.submitMarker ∈ parts

variable {level : Level} {words : List String} {parts last : List Part}
  {levels below : List (List Part)} {part : Part}

theorem HoldsMarker.mono (h : HoldsMarker parts) (hmore : parts ⊆ last) : HoldsMarker last := by
  obtain hswitch | ⟨option, hoption, hvalue⟩ := h
  · exact .inl (hmore hswitch)
  · exact .inr ⟨option, hoption, hmore hvalue⟩

theorem Word.of_submitMarker : Progress.Word.of Flags.submitMarker = .long "submit" none := by
  decide +kernel

/-- Only two hyphens alone end the options. -/
theorem Word.eq_of_escape {word : String} (h : Progress.Word.of word = .escape) : word = "--" := by
  unfold Progress.Word.of at h
  split at h
  · next hword => exact String.toList_inj.mp hword
  · split at h <;> cases h
  · cases h
  · cases h

/-- The lowest level has no level below it. -/
theorem Reads.below_eq_nil (h : Reads .container words (parts :: below)) : below = [] := by
  simpa [Level.depth] using h.length_eq

/-- The name of the switch for a submission is known on the lowest level, and as nothing else. -/
theorem Level.of_long?_submit {choice : Choice} (h : level.long? "submit" = some choice) :
    level = .container ∧ choice = .switch .submit := by
  cases level with
  | container => exact ⟨rfl, (Option.some.inj h).symm⟩
  | program | check => cases h

/-- Above the lowest level the only option that takes a value is the one that names the
configuration file, which takes no argument with hyphens. -/
theorem Level.eq_container_of_takesHyphens {name : String} {option : ValueOption}
    (h : level.long? name = some (.value option)) (htakes : option.takesHyphens = true) :
    level = .container := by
  cases level with
  | container => rfl
  | program | check =>
    have hconfig : option ≠ .config := by
      rintro rfl
      cases htakes
    simp only [long?, commonLong?] at h
    split_ifs at h <;> simp_all

/-- The marker is not lost where a level has one part more. -/
theorem exists_holdsMarker_cons
    (h : ∃ parts, (last :: below).getLast? = some parts ∧
      (.terminator ∈ parts ∨ HoldsMarker parts)) :
    ∃ parts, ((part :: last) :: below).getLast? = some parts ∧
      (.terminator ∈ parts ∨ HoldsMarker parts) := by
  cases below with
  | nil =>
    obtain ⟨parts, hlast, hholds⟩ := h
    cases hlast
    have hmore : last ⊆ part :: last := List.subset_cons_self _ _
    exact ⟨part :: last, rfl, hholds.imp (hmore ·) (·.mono hmore)⟩
  | cons next below => exact h

/-- The argument that asks for a submission is found on the lowest level, unless the options end
there. -/
theorem Reads.exists_holdsMarker (h : Reads level words levels)
    (hmarker : Flags.submitMarker ∈ words) :
    ∃ parts, levels.getLast? = some parts ∧ (.terminator ∈ parts ∨ HoldsMarker parts) := by
  induction h with
  | nothing => cases hmarker
  | command hnext hbelow ih =>
    rcases List.mem_cons.mp hmarker with rfl | hmarker
    · cases (Word.of_command hnext).symm.trans Word.of_submitMarker
    · obtain ⟨parts, hlast, hholds⟩ := ih hmarker
      exact ⟨parts, by simp [List.getLast?_cons, hlast], hholds⟩
  | long hword hname hrest ih =>
    rcases List.mem_cons.mp hmarker with rfl | hmarker
    · cases hword.symm.trans Word.of_submitMarker
      obtain ⟨rfl, ⟨⟩⟩ := Level.of_long?_submit hname
      cases hrest.below_eq_nil
      exact ⟨_, rfl, .inr (.inl List.mem_cons_self)⟩
    · exact exists_holdsMarker_cons (ih hmarker)
  | separate hword hname hvalue hrest ih =>
    rcases List.mem_cons.mp hmarker with rfl | hmarker
    · cases hword.symm.trans Word.of_submitMarker
      cases (Level.of_long?_submit hname).2
    · rcases List.mem_cons.mp hmarker with rfl | hmarker
      · have htakes := hvalue.resolve_right (by simp [Word.of_submitMarker])
        obtain rfl := Level.eq_container_of_takesHyphens hname htakes
        cases hrest.below_eq_nil
        refine ⟨_, rfl, .inr (.inr ⟨_, ?_, List.mem_cons_self⟩)⟩
        rintro rfl
        cases htakes
      · exact exists_holdsMarker_cons (ih hmarker)
  | shorts hword _ hrest ih | joined hword _ hrest ih | image hword hrest ih =>
    rcases List.mem_cons.mp hmarker with rfl | hmarker
    · cases hword.symm.trans Word.of_submitMarker
    · exact exists_holdsMarker_cons (ih hmarker)
  | terminator hword => exact ⟨_, rfl, .inl List.mem_cons_self⟩

/-- Options end only where two hyphens stand among the arguments. -/
theorem Reads.mem_of_terminator (h : Reads level words levels) (hparts : parts ∈ levels)
    (hends : .terminator ∈ parts) : "--" ∈ words := by
  induction h generalizing parts with
  | nothing =>
    obtain rfl := List.mem_singleton.mp hparts
    cases hends
  | command hnext hbelow ih =>
    rcases List.mem_cons.mp hparts with rfl | hparts
    · cases hends
    · exact List.mem_cons_of_mem _ (ih hparts hends)
  | terminator hword => exact List.mem_cons.mpr (.inl (Word.eq_of_escape hword).symm)
  | long hword hname hrest ih | shorts hword hname hrest ih | joined hword hname hrest ih
  | image hword hrest ih =>
    refine List.mem_cons_of_mem _ ?_
    rcases List.mem_cons.mp hparts with rfl | hparts
    · exact ih List.mem_cons_self (by simpa using hends)
    · exact ih (List.mem_cons_of_mem _ hparts) hends
  | separate hword hname hvalue hrest ih =>
    refine List.mem_cons_of_mem _ (List.mem_cons_of_mem _ ?_)
    rcases List.mem_cons.mp hparts with rfl | hparts
    · exact ih List.mem_cons_self (by simpa using hends)
    · exact ih (List.mem_cons_of_mem _ hparts) hends

/-- Every option that takes a value, but for the one that names the configuration file, has a
key. -/
theorem exists_key_of_option {option : ValueOption} (h : option ≠ .config) :
    ∃ key name, optionFor? key = some option ∧ key.flag? = some name := by
  cases option with
  | config => exact absurd rfl h
  | apiToken => exact ⟨.apiToken, _, rfl, rfl⟩
  | host => exact ⟨.host, _, rfl, rfl⟩
  | environment => exact ⟨.environment, _, rfl, rfl⟩
  | projectId => exact ⟨.projectId, _, rfl, rfl⟩
  | platform => exact ⟨.platform, _, rfl, rfl⟩

end CommandLine

theorem Config.Flags.value_of_valueFor {key : Key} {flag : Flag} {content : String}
    (h : Flags.valueFor key flag = .text content) : flag.value = content := by
  unfold Flags.valueFor at h
  split at h
  · cases h
  · exact Value.text.inj h

namespace Program

open CommandLine Validation

variable (file : Config.File) (environment : String → Option String) {parts : List Part}

/-- Where the argument that asks for a submission was typed, also as the value of another option, a
submission is asked for. -/
theorem wantsSubmission_of_holdsMarker (honce : (Typed.ofParts parts).Once)
    (hholds : HoldsMarker parts) : WantsSubmission (flagsOf (.ofParts parts))
      (settingsFor file environment (flagsOf (.ofParts parts))) := by
  obtain hswitch | ⟨option, hoption, hvalue⟩ := hholds
  · have htyped : (flagsOf (.ofParts parts)).typedValue? .submit = some (.switch true) :=
      (typedValue?_flagsOf honce).mpr ⟨_, hswitch, rfl⟩
    left
    rw [settingsFor_get, htyped]
    rfl
  · obtain ⟨key, name, hkey, hname⟩ := exists_key_of_option hoption
    have hgives : ∃ part ∈ parts, part.value? key = some (.text Flags.submitMarker) :=
      ⟨_, hvalue, by simp [Part.value?, hkey]⟩
    obtain ⟨hchanged, hflag⟩ := (flagFor_gives_iff honce hname).mpr hgives
    refine .inr ⟨_, mem_flagsOf_iff.mpr ⟨key, name, hname, rfl⟩, hchanged, ?_⟩
    rw [Flags.value_of_valueFor hflag]
    exact List.infix_rfl

/-- A credential that is the argument which asks for a submission looks like a flag. -/
theorem shape_isBroken_of_valued (honce : (Typed.ofParts parts).Once)
    (hswallowed : .valued .projectId Flags.submitMarker ∈ parts ∨
      .valued .apiToken Flags.submitMarker ∈ parts) (args : List String) :
    Rule.shape.IsBroken args (flagsOf (.ofParts parts))
      (settingsFor file environment (flagsOf (.ofParts parts))) := by
  have hbroken (credential : Credential) (hcredential : ∃ part ∈ parts,
      part.value? credential.key = some (.text Flags.submitMarker)) : ∃ credential ∈ Credential.all,
      "--".toList <+: ((settingsFor file environment (flagsOf (.ofParts parts))).getText
        credential.key).toList := by
    have hhyphens : "--".toList <+: Flags.submitMarker.toList := by decide +kernel
    refine ⟨credential, credential.mem_all, ?_⟩
    rw [Settings.getText, settingsFor_get, (typedValue?_flagsOf honce).mpr hcredential]
    exact hhyphens
  obtain hid | htoken := hswallowed
  · exact ⟨wantsSubmission_of_holdsMarker file environment honce
      (.inr ⟨_, by decide, hid⟩), hbroken .projectId ⟨_, hid, rfl⟩⟩
  · exact ⟨wantsSubmission_of_holdsMarker file environment honce
      (.inr ⟨_, by decide, htoken⟩), hbroken .apiToken ⟨_, htoken, rfl⟩⟩

/-- The wish to submit is not lost where the argument that asks for it stands among the arguments of
a command line that is understood and no two hyphens alone end the options. The argument is the
switch, or another option has it for its value; in either case the first checks refuse the request,
or accept it as one for a submission and leave settings that say so. Where it became the project
identifier or the token, the request is refused. -/
theorem submission_intent_kept {arguments : List String} {line : CommandLine}
    (hline : parse arguments = .ok line) (hmarker : Flags.submitMarker ∈ arguments) :
    ∃ above between parts, Reads .program arguments [above, between, parts] ∧
      (∀ others, Reads .program arguments others → others = [above, between, parts]) ∧
      ("--" ∉ arguments → .terminator ∉ parts) ∧
      (.terminator ∉ parts → HoldsMarker parts ∧
        ((∃ error, positional line.images line.flags
            (settingsFor file environment line.flags) =
              (.error error, settingsFor file environment line.flags)) ∨
          ∃ image after, line.images = [image] ∧
            positional line.images line.flags (settingsFor file environment line.flags) =
              (.ok ⟨image, true⟩, after) ∧
            after.getBool .submit = .ok true) ∧
        (.valued .projectId Flags.submitMarker ∈ parts ∨
            .valued .apiToken Flags.submitMarker ∈ parts →
          ∃ error, positional line.images line.flags (settingsFor file environment line.flags) =
              (.error error, settingsFor file environment line.flags) ∧
            validate line.images line.flags (settingsFor file environment line.flags) =
              (.error error, settingsFor file environment line.flags))) := by
  obtain ⟨above, between, parts, hreads, rfl, honce⟩ := exists_reads_of_parse hline
  have hflags : (ofLevels [.ofParts above, .ofParts between, .ofParts parts]).flags =
      flagsOf (.ofParts parts) := rfl
  rw [hflags]
  generalize (ofLevels [.ofParts above, .ofParts between, .ofParts parts]).images = images
  refine ⟨above, between, parts, hreads, fun others hothers => hothers.unique hreads,
    fun hnone hends => hnone (hreads.mem_of_terminator (by simp) hends), fun hopen => ?_⟩
  obtain ⟨_, hlast, hfound⟩ := hreads.exists_holdsMarker hmarker
  cases hlast
  have hholds := hfound.resolve_left hopen
  have hwants := wantsSubmission_of_holdsMarker file environment honce hholds
  have hverdict := positional_eq images (flagsOf (.ofParts parts))
    (settingsFor file environment (flagsOf (.ofParts parts)))
  refine ⟨hholds, ?_, fun hswallowed => ?_⟩
  · cases hfirst : firstBroken? Rule.early images (flagsOf (.ofParts parts))
        (settingsFor file environment (flagsOf (.ofParts parts))) with
    | some rule =>
      rw [hfirst] at hverdict
      exact .inl ⟨_, hverdict⟩
    | none =>
      rw [hfirst] at hverdict
      obtain ⟨image, rfl, hpositional⟩ := hverdict
      rw [noted, if_pos hwants, decide_eq_true hwants] at hpositional
      refine .inr ⟨image, _, rfl, hpositional, ?_⟩
      rw [Settings.getBool_eq, Settings.get_force, if_pos rfl]
      rfl
  · have hbroken := shape_isBroken_of_valued file environment honce hswallowed images
    obtain ⟨rule, hfirst⟩ : ∃ rule, firstBroken? Rule.early images (flagsOf (.ofParts parts))
        (settingsFor file environment (flagsOf (.ofParts parts))) = some rule := by
      refine Option.isSome_iff_exists.mp (List.find?_isSome.mpr ⟨.shape, by decide, ?_⟩)
      exact decide_eq_true hbroken
    rw [hfirst] at hverdict
    exact ⟨_, hverdict, Action.bind_of_error hverdict _⟩

/-- As the platform the argument still makes a submission, which has its credentials from the
environment; as the project identifier it makes the request fail. -/
theorem submission_intent_kept_as_value :
    let environment := fun name => if name = "PFLT_PYXIS_API_TOKEN" then some "secret"
      else if name = "PFLT_CERTIFICATION_PROJECT_ID" then some "1234" else none
    (∃ line after, parse ["check", "container", "--platform", "--submit", "busybox"] = .ok line ∧
      positional line.images line.flags (settingsFor .empty environment line.flags) =
        (.ok ⟨"busybox", true⟩, after) ∧
      after.getBool .submit = .ok true) ∧
    ∃ line error,
      parse ["check", "container", "--certification-project-id", "--submit", "busybox"] = .ok line ∧
      validate line.images line.flags (settingsFor .empty environment line.flags) =
        (.error error, settingsFor .empty environment line.flags) := by
  intro environment
  constructor
  · have hplatform : Progress.Word.of "--platform" = .long "platform" none := by decide +kernel
    have hreads : Reads .program ["check", "container", "--platform", "--submit", "busybox"]
        [[], [], [.valued .platform "--submit", .image "busybox"]] :=
      .command rfl (.command rfl (.separate hplatform (by decide) (.inl rfl)
        (.image (by decide +kernel) .nothing)))
    let line := ofLevels [.ofParts [], .ofParts [],
      .ofParts [.valued .platform "--submit", .image "busybox"]]
    have hline : parse ["check", "container", "--platform", "--submit", "busybox"] = .ok line := rfl
    obtain ⟨above, between, parts, -, hunique, -, hkept⟩ :=
      submission_intent_kept .empty environment hline (by decide)
    obtain ⟨-, -, rfl⟩ : [] = above ∧ [] = between ∧ _ = parts := by simpa using hunique _ hreads
    obtain ⟨-, ⟨error, hrefused⟩ | ⟨image, after, himages, haccepted, hsubmit⟩, -⟩ :=
      hkept (by decide)
    · have hpasses : (positional line.images line.flags
          (settingsFor .empty environment line.flags)).1 = .ok ⟨"busybox", true⟩ := by
        decide +kernel
      simp [hrefused] at hpasses
    · cases himages
      exact ⟨line, after, hline, haccepted, hsubmit⟩
  · have hid : Progress.Word.of "--certification-project-id" =
        .long "certification-project-id" none := by decide +kernel
    have hreads : Reads .program
        ["check", "container", "--certification-project-id", "--submit", "busybox"]
        [[], [], [.valued .projectId "--submit", .image "busybox"]] :=
      .command rfl (.command rfl (.separate hid (by decide) (.inl rfl)
        (.image (by decide +kernel) .nothing)))
    obtain ⟨line, hline⟩ : ∃ line, parse
        ["check", "container", "--certification-project-id", "--submit", "busybox"] = .ok line :=
      ⟨_, rfl⟩
    obtain ⟨above, between, parts, -, hunique, -, hkept⟩ :=
      submission_intent_kept .empty environment hline (by decide)
    obtain ⟨-, -, rfl⟩ : [] = above ∧ [] = between ∧ _ = parts := by simpa using hunique _ hreads
    obtain ⟨-, -, hrefused⟩ := hkept (by decide)
    obtain ⟨error, -, hvalidate⟩ := hrefused (.inl (by decide))
    exact ⟨line, error, hline, hvalidate⟩

end Program
end ContainerCert
