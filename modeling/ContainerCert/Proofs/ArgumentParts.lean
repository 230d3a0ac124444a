import ContainerCert.CommandLine.Parse
import ContainerCert.Proofs.Actions
import Mathlib.Data.List.Forall2
import Mathlib.Data.List.Nodup

/-!
# The parts of a command line

A command line that is understood falls into parts in one way: on each level switches, options with
their values, and images, with the command between two levels. What was typed is what the parts say.
An option waits for its value while the arguments are read, so what is noted lags behind by at most
one part; and a part that repeats another is refused once it is settled.
-/

namespace ContainerCert.CommandLine

open ContainerCert.Action (step_bind_eq_ok)
open Progress

/-- A part of a level of the command line: an argument, or an option and the argument after it. -/
inductive Part where
  | switched (switches : List Switch)
  | valued (option : ValueOption) (value : String)
  | image (word : String)
  /-- Two hyphens alone: the arguments after them are images. -/
  | terminator
  deriving DecidableEq, Repr

/-- The arguments of a level and those below it fall into these parts, level by level. -/
inductive Reads : Level → List String → List (List Part) → Prop where
  | nothing : Reads .container [] [[]]
  | command {level next : Level} {name : String} {words : List String} {below : List (List Part)}
      (hnext : level.next? = some (name, next)) (hbelow : Reads next words below) :
      Reads level (name :: words) ([] :: below)
  | long {level : Level} {word name : String} {switch : Switch} {words : List String}
      {parts : List Part} {below : List (List Part)} (hword : Word.of word = .long name none)
      (hname : level.long? name = some (.switch switch))
      (hrest : Reads level words (parts :: below)) :
      Reads level (word :: words) ((.switched [switch] :: parts) :: below)
  | shorts {level : Level} {word : String} {letters : List Char} {switches : List Switch}
      {words : List String} {parts : List Part} {below : List (List Part)}
      (hword : Word.of word = .shorts letters)
      (hletters : List.Forall₂ (fun letter switch => level.short? letter = some (.switch switch))
        letters switches)
      (hrest : Reads level words (parts :: below)) :
      Reads level (word :: words) ((.switched switches :: parts) :: below)
  | separate {level : Level} {word name value : String} {option : ValueOption}
      {words : List String} {parts : List Part} {below : List (List Part)}
      (hword : Word.of word = .long name none) (hname : level.long? name = some (.value option))
      (hvalue : option.takesHyphens = true ∨ Word.of value = .plain)
      (hrest : Reads level words (parts :: below)) :
      Reads level (word :: value :: words) ((.valued option value :: parts) :: below)
  | joined {level : Level} {word name value : String} {option : ValueOption}
      {words : List String} {parts : List Part} {below : List (List Part)}
      (hword : Word.of word = .long name (some value))
      (hname : level.long? name = some (.value option))
      (hrest : Reads level words (parts :: below)) :
      Reads level (word :: words) ((.valued option value :: parts) :: below)
  | image {word : String} {words : List String} {parts : List Part} {below : List (List Part)}
      (hword : Word.of word = .plain) (hrest : Reads .container words (parts :: below)) :
      Reads .container (word :: words) ((.image word :: parts) :: below)
  | terminator {word : String} {words : List String} (hword : Word.of word = .escape) :
      Reads .container (word :: words) [.terminator :: words.map .image]

/-- What was typed, with one part more. -/
def Typed.add (typed : Typed) : Part → Typed
  | .switched switches => { typed with switches := typed.switches ++ switches }
  | .valued option value => { typed with values := typed.values ++ [(option, value)] }
  | .image word => { typed with images := typed.images ++ [word] }
  | .terminator => typed

/-- What was typed at a level, by its parts. -/
def Typed.ofParts (parts : List Part) : Typed :=
  parts.foldl Typed.add ⟨[], [], []⟩

/-- The switches that were typed are those of the parts. -/
theorem mem_switches_ofParts {parts : List Part} {switch : Switch} :
    switch ∈ (Typed.ofParts parts).switches ↔
      ∃ switches, .switched switches ∈ parts ∧ switch ∈ switches := by
  have hfold (typed : Typed) : switch ∈ (parts.foldl Typed.add typed).switches ↔
      switch ∈ typed.switches ∨ ∃ switches, .switched switches ∈ parts ∧ switch ∈ switches := by
    induction parts generalizing typed with
    | nil => simp
    | cons part parts ih =>
      rw [List.foldl_cons, ih]
      cases part <;> simp [Typed.add, or_assoc, or_and_right, exists_or]
  simpa [Typed.ofParts] using hfold ⟨[], [], []⟩

/-- The values that were typed are those of the parts. -/
theorem mem_values_ofParts {parts : List Part} {option : ValueOption} {value : String} :
    (option, value) ∈ (Typed.ofParts parts).values ↔ .valued option value ∈ parts := by
  have hfold (typed : Typed) : (option, value) ∈ (parts.foldl Typed.add typed).values ↔
      (option, value) ∈ typed.values ∨ .valued option value ∈ parts := by
    induction parts generalizing typed with
    | nil => simp
    | cons part parts ih =>
      rw [List.foldl_cons, ih]
      cases part <;> simp [Typed.add, or_assoc]
  simpa [Typed.ofParts] using hfold ⟨[], [], []⟩

/-- No switch and no option was typed twice. -/
structure Typed.Once (typed : Typed) : Prop where
  switches : typed.switches.Nodup
  values : (typed.values.map Prod.fst).Nodup

/-- How many levels there are from this one on. -/
def Level.depth : Level → Nat
  | .program => 3
  | .check => 2
  | .container => 1

section Reading

variable {level next : Level} {name word : String} {words : List String}
  {parts others : List (List Part)}

/-- The names of commands look like nothing else. -/
theorem Word.of_command (h : level.next? = some (name, next)) : Word.of name = .plain := by
  cases level <;> simp only [Level.next?, Option.some.injEq, Prod.mk.injEq, reduceCtorEq] at h
  · obtain ⟨rfl, -⟩ := h
    rfl
  · obtain ⟨rfl, -⟩ := h
    rfl

/-- A hyphen before letters has a letter after it. -/
theorem Word.ne_nil {letters : List Char} (h : Word.of word = .shorts letters) : letters ≠ [] := by
  unfold Word.of at h
  split at h
  · cases h
  · split at h <;> cases h
  · cases h
    exact List.cons_ne_nil _ _
  · cases h

theorem Reads.length_eq (h : Reads level words parts) : parts.length = level.depth := by
  induction h with
  | command hnext hbelow ih =>
    rename_i level next _ _ _
    cases level <;> simp only [Level.next?, Option.some.injEq, Prod.mk.injEq, reduceCtorEq] at hnext
    · obtain ⟨-, rfl⟩ := hnext
      simpa [Level.depth] using ih
    · obtain ⟨-, rfl⟩ := hnext
      simpa [Level.depth] using ih
  | nothing | terminator => rfl
  | long | shorts | separate | joined | image => simpa using ‹_ = _›

/-- Arguments fall into parts in at most one way: the first of them shows which part it begins. -/
theorem Reads.unique (h : Reads level words parts) (h' : Reads level words others) :
    parts = others := by
  induction h generalizing others with
  | nothing => cases h'; rfl
  | command hnext hbelow ih =>
    have hplain := Word.of_command hnext
    cases h' with
    | command hnext' hbelow' =>
      obtain ⟨-, rfl⟩ := Prod.mk.inj (Option.some.inj (hnext.symm.trans hnext'))
      rw [ih hbelow']
    | _ => simp_all [Level.next?]
  | long hword hname hrest ih =>
    cases h' with
    | command hnext' hbelow' => simp [Word.of_command hnext'] at hword
    | long hword' hname' hrest' =>
      obtain ⟨rfl, rfl⟩ := List.cons.inj (ih hrest')
      simp_all
    | _ => simp_all
  | shorts hword hletters hrest ih =>
    cases h' with
    | command hnext' hbelow' => simp [Word.of_command hnext'] at hword
    | shorts hword' hletters' hrest' =>
      obtain ⟨rfl, rfl⟩ := List.cons.inj (ih hrest')
      obtain rfl := Word.shorts.inj (hword.symm.trans hword')
      have hsame := List.right_unique_forall₂' (fun _ _ _ h h' => by simp_all) hletters hletters'
      rw [hsame]
    | _ => simp_all
  | separate hword hname hvalue hrest ih =>
    cases h' with
    | command hnext' hbelow' => simp [Word.of_command hnext'] at hword
    | separate hword' hname' hvalue' hrest' =>
      obtain ⟨rfl, rfl⟩ := List.cons.inj (ih hrest')
      simp_all
    | _ => simp_all
  | joined hword hname hrest ih =>
    cases h' with
    | command hnext' hbelow' => simp [Word.of_command hnext'] at hword
    | joined hword' hname' hrest' =>
      obtain ⟨rfl, rfl⟩ := List.cons.inj (ih hrest')
      simp_all
    | _ => simp_all
  | image hword hrest ih =>
    cases h' with
    | command hnext' => simp [Level.next?] at hnext'
    | image hword' hrest' =>
      obtain ⟨rfl, rfl⟩ := List.cons.inj (ih hrest')
      rfl
    | _ => simp_all
  | terminator hword =>
    cases h' with
    | command hnext' => simp [Level.next?] at hnext'
    | terminator => rfl
    | _ => simp_all

end Reading

namespace Progress

variable {level : Level} {progress next settled : Progress} {option : ValueOption} {switch : Switch}

/-- What was typed, with the option that waits to be settled. -/
def total (progress : Progress) : Typed :=
  match progress.waiting with
  | some (option, some value) => progress.typed.add (.valued option value)
  | _ => progress.typed

/-- From one point of reading to the next a part is taken in; what is settled by then was typed
once if that holds of what was settled before. -/
structure Takes (progress next : Progress) (part : Part) : Prop where
  ready : progress.awaiting? = none
  total : next.total = progress.total.add part
  readyAfter : next.awaiting? = none
  onlyImages : next.onlyImages = progress.onlyImages
  once : progress.typed.Once → next.typed.Once

theorem once_start : start.typed.Once :=
  ⟨List.nodup_nil, List.nodup_nil⟩

/-- A value is noted for an option that has none. -/
theorem addValue_eq_ok {value : String} (h : progress.addValue option value = .ok next) :
    next = { progress with typed := progress.typed.add (.valued option value) } ∧
      (progress.typed.Once → next.typed.Once) := by
  unfold addValue at h
  split at h
  · cases h
  · next hfresh =>
    split at h
    · cases h
    · cases h
      refine ⟨rfl, fun honce => ⟨honce.switches, ?_⟩⟩
      have hnew : option ∉ progress.typed.values.map Prod.fst := by
        simpa [List.mem_map] using hfresh
      simpa [List.nodup_append] using ⟨honce.values, fun _ _ hmem h => hnew (by simp_all)⟩

/-- What is settled is all that was typed. -/
theorem settle_eq_ok (h : progress.settle = .ok settled) :
    progress.awaiting? = none ∧ settled = ⟨progress.total, none, progress.onlyImages⟩ ∧
      (progress.typed.Once → settled.typed.Once) := by
  obtain ⟨typed, waiting, onlyImages⟩ := progress
  match waiting with
  | none =>
    cases h
    exact ⟨rfl, rfl, id⟩
  | some (option, none) => cases h
  | some (option, some value) =>
    obtain ⟨rfl, honce⟩ := addValue_eq_ok h
    exact ⟨rfl, rfl, honce⟩

theorem addSwitch_takes (h : progress.addSwitch switch = .ok next) :
    progress.Takes next (.switched [switch]) := by
  obtain ⟨settled, hsettle, hadd⟩ := step_bind_eq_ok.mp h
  obtain ⟨hready, rfl, honce⟩ := settle_eq_ok hsettle
  split at hadd
  · cases hadd
  · next hfresh =>
    cases hadd
    refine ⟨hready, rfl, rfl, rfl, fun hbefore => ⟨?_, (honce hbefore).values⟩⟩
    have := (honce hbefore).switches
    simpa [List.nodup_append] using ⟨this, fun _ hmem h => hfresh (h ▸ hmem)⟩

/-- Switches that are taken in one after the other are one part. -/
theorem Takes.switches {between : Progress} {switches : List Switch}
    (h : progress.Takes between (.switched [switch]))
    (hlater : between.Takes next (.switched switches)) :
    progress.Takes next (.switched (switch :: switches)) where
  ready := h.ready
  total := by simp [hlater.total, h.total, Typed.add]
  readyAfter := hlater.readyAfter
  onlyImages := hlater.onlyImages.trans h.onlyImages
  once := hlater.once ∘ h.once

/-- Letters that are noted stand for switches. -/
theorem exists_of_shorts {letters : List Char} (hready : letters = [] → progress.awaiting? = none)
    (h : progress.shorts level letters = .ok next) : ∃ switches,
      List.Forall₂ (fun letter switch => level.short? letter = some (.switch switch))
        letters switches ∧ progress.Takes next (.switched switches) := by
  induction letters generalizing progress with
  | nil =>
    cases h
    exact ⟨[], .nil, hready rfl, by simp [Typed.add], hready rfl, rfl, id⟩
  | cons letter letters ih =>
    rw [shorts] at h
    split at h
    · next switch hletter =>
      obtain ⟨between, hadd, hrest⟩ := step_bind_eq_ok.mp h
      have htakes := addSwitch_takes hadd
      obtain ⟨switches, hletters, hlater⟩ := ih (fun _ => htakes.readyAfter) hrest
      exact ⟨switch :: switches, .cons hletter hletters, htakes.switches hlater⟩
    · obtain ⟨_, -, hthrow⟩ := step_bind_eq_ok.mp h
      cases hthrow
    · obtain ⟨_, -, hthrow⟩ := step_bind_eq_ok.mp h
      cases hthrow
    · cases h
    · cases h

/-- A name that is noted is that of a switch, or that of an option whose value comes with it or is
waited for. -/
theorem long_cases {name : String} {value : Option String}
    (h : progress.long level name value = .ok next) :
    (∃ switch, level.long? name = some (.switch switch) ∧ value = none ∧
      progress.Takes next (.switched [switch])) ∨
    (∃ option given, level.long? name = some (.value option) ∧ value = some given ∧
      progress.Takes next (.valued option given)) ∨
    ∃ option settled, level.long? name = some (.value option) ∧ value = none ∧
      progress.settle = .ok settled ∧ next = { settled with waiting := some (option, none) } := by
  unfold long at h
  split at h
  · cases h
  · next option hname =>
    obtain ⟨settled, hsettle, hreturn⟩ := step_bind_eq_ok.mp h
    cases hreturn
    exact .inr (.inr ⟨option, settled, hname, rfl, hsettle, rfl⟩)
  · next option given hname =>
    obtain ⟨settled, hsettle, hadd⟩ := step_bind_eq_ok.mp h
    obtain ⟨hready, rfl, honce⟩ := settle_eq_ok hsettle
    obtain ⟨rfl, honce'⟩ := addValue_eq_ok hadd
    exact .inr (.inl ⟨option, given, hname, rfl, hready, rfl, rfl, rfl, honce' ∘ honce⟩)
  · cases h
  · next switch hname => exact .inl ⟨switch, hname, rfl, addSwitch_takes h⟩
  · obtain ⟨_, -, hthrow⟩ := step_bind_eq_ok.mp h
    cases hthrow
  · obtain ⟨_, -, hthrow⟩ := step_bind_eq_ok.mp h
    cases hthrow

/-- An argument that is no option is an image, on the level that takes images. -/
theorem plain_eq_ok {word : String} (h : progress.plain level word = .ok next) :
    level = .container ∧ progress.Takes next (.image word) := by
  cases level with
  | container =>
    obtain ⟨settled, hsettle, hreturn⟩ := step_bind_eq_ok.mp h
    obtain ⟨hready, rfl, honce⟩ := settle_eq_ok hsettle
    cases hreturn
    exact ⟨rfl, hready, rfl, rfl, rfl, fun hbefore => ⟨(honce hbefore).1, (honce hbefore).2⟩⟩
  | program | check => cases h

/-- Only the level that takes images can end, and what it ends with is all that was typed. -/
theorem finish_eq_ok {typed : Typed} (h : progress.finish level = .ok typed) :
    level = .container ∧ progress.awaiting? = none ∧ typed = progress.total ∧
      (progress.typed.Once → typed.Once) := by
  obtain ⟨settled, hsettle, hend⟩ := step_bind_eq_ok.mp h
  obtain ⟨hready, rfl, honce⟩ := settle_eq_ok hsettle
  cases level with
  | container =>
    cases hend
    exact ⟨rfl, hready, rfl, honce⟩
  | program | check =>
    simp only [Level.next?, Option.isNone_some, Bool.false_eq_true, if_false] at hend
    split at hend <;> cases hend

/-- Where nothing is waited for, an argument is taken for what it looks like. -/
theorem argument_of_ready (hready : progress.awaiting? = none) (hopen : progress.onlyImages = false)
    (level : Level) (word : String) :
    progress.argument level word = match Word.of word with
      | .plain => progress.plain level word
      | .escape => .ok { progress with onlyImages := true }
      | .long name value => progress.long level name value
      | .shorts letters => progress.shorts level letters := by
  unfold argument
  rw [hready, hopen]
  cases Word.of word <;> rfl

/-- Where a value is waited for, an argument that is taken is the value: it looks like one, or the
option takes what looks like another option. Else all arguments from then on would be images. -/
theorem argument_of_awaiting {word : String} (hwaits : progress.awaiting? = some option)
    (hopen : progress.onlyImages = false) (h : progress.argument level word = .ok next) :
    (next = progress.give option word ∧ (option.takesHyphens = true ∨ Word.of word = .plain)) ∨
      next = { progress with onlyImages := true } := by
  unfold argument at h
  rw [hwaits, hopen, if_neg (by decide)] at h
  have hnotReady : progress.awaiting? ≠ none := by simp [hwaits]
  cases htakes : option.takesHyphens with
  | true =>
    left
    cases hword : Word.of word <;> simp [hword, Option.filter, htakes] at h <;> simp [h]
  | false =>
    cases hword : Word.of word with
    | plain =>
      simp only [hword, Except.ok.injEq] at h
      simp [← h]
    | escape =>
      simp only [hword, Option.filter, htakes, Bool.false_eq_true, if_false, Except.ok.injEq] at h
      exact .inr h.symm
    | long name value =>
      simp only [hword, Option.filter, htakes, Bool.false_eq_true, if_false] at h
      obtain ⟨_, _, _, hready⟩ | ⟨_, _, _, _, hready⟩ | ⟨_, _, _, _, hsettle, _⟩ := long_cases h
      · exact absurd hready.ready hnotReady
      · exact absurd hready.ready hnotReady
      · exact absurd (settle_eq_ok hsettle).1 hnotReady
    | shorts letters =>
      simp only [hword, Option.filter, htakes, Bool.false_eq_true, if_false] at h
      obtain ⟨_, _, hready⟩ := exists_of_shorts (fun hnil => absurd hnil (Word.ne_nil hword)) h
      exact absurd hready.ready hnotReady

end Progress

section Levels

open Progress

variable {level : Level} {progress next : Progress} {option : ValueOption} {word : String}
  {words : List String} {levels : List Typed}

/-- Where two hyphens alone were read, all arguments are images. -/
theorem parseAt_of_onlyImages (himages : progress.onlyImages = true)
    (h : parseAt level progress words = .ok levels) :
    level = .container ∧ progress.awaiting? = none ∧
      ∃ typed, levels = [typed] ∧ typed = (words.map Part.image).foldl Typed.add progress.total ∧
        (progress.typed.Once → typed.Once) := by
  induction words generalizing progress with
  | nil =>
    obtain ⟨typed, hfinish, hreturn⟩ := step_bind_eq_ok.mp h
    obtain ⟨hlevel, hready, htyped, honce⟩ := finish_eq_ok hfinish
    cases hreturn
    exact ⟨hlevel, hready, typed, rfl, htyped, honce⟩
  | cons word words ih =>
    have hargument : progress.argument level word = progress.plain level word := by
      rw [argument, if_pos himages]
    simp only [parseAt, himages, Bool.not_true, Bool.false_and, Bool.false_eq_true, if_false,
      hargument] at h
    obtain ⟨next, hplain, hrest⟩ := step_bind_eq_ok.mp h
    obtain ⟨hlevel, htakes⟩ := plain_eq_ok hplain
    obtain ⟨-, -, typed, hlevels, htyped, honce⟩ :=
      ih (htakes.onlyImages.trans himages) hrest
    refine ⟨hlevel, htakes.ready, typed, hlevels, ?_, honce ∘ htakes.once⟩
    rw [htyped, htakes.total]
    rfl

/-- Where a value is waited for, it is the next argument. -/
theorem parseAt_of_awaiting (hwaits : progress.awaiting? = some option)
    (hopen : progress.onlyImages = false) (h : parseAt level progress words = .ok levels) :
    ∃ value rest, words = value :: rest ∧
      (option.takesHyphens = true ∨ Word.of value = .plain) ∧
      parseAt level (progress.give option value) rest = .ok levels := by
  cases words with
  | nil =>
    obtain ⟨_, hfinish, -⟩ := step_bind_eq_ok.mp h
    have hready := (finish_eq_ok hfinish).2.1
    simp [hwaits] at hready
  | cons value rest =>
    simp only [parseAt, hwaits, Option.isNone_some, Bool.and_false, Bool.false_eq_true,
      if_false] at h
    obtain ⟨next, hargument, hrest⟩ := step_bind_eq_ok.mp h
    obtain ⟨rfl, hvalue⟩ | rfl := argument_of_awaiting hwaits hopen hargument
    · exact ⟨value, rest, rfl, hvalue, hrest⟩
    · -- A word that ends the options leaves the one that waits without its value.
      have hready : progress.awaiting? = none := (parseAt_of_onlyImages rfl hrest).2.1
      simp [hwaits] at hready

/-- Where nothing is waited for, an argument is the command that leads to the next level, or it is
noted on its own level. -/
theorem parseAt_cons_of_ready (hready : progress.awaiting? = none)
    (hopen : progress.onlyImages = false)
    (h : parseAt level progress (word :: words) = .ok levels) :
    (∃ next below settled, level.next? = some (word, next) ∧
      parseAt next .start words = .ok below ∧ progress.settle = .ok settled ∧
      levels = settled.typed :: below) ∨
    ∃ next, progress.argument level word = .ok next ∧ parseAt level next words = .ok levels := by
  simp only [parseAt, hready, hopen, Bool.not_false, Option.isNone_none, Bool.and_self,
    if_true] at h
  cases hnext : level.next? with
  | none =>
    simp only [hnext] at h
    exact .inr (step_bind_eq_ok.mp h)
  | some command =>
    obtain ⟨name, next⟩ := command
    simp only [hnext] at h
    split at h
    · next hword =>
      obtain ⟨below, hbelow, hrest⟩ := step_bind_eq_ok.mp h
      obtain ⟨settled, hsettle, hreturn⟩ := step_bind_eq_ok.mp hrest
      cases hreturn
      exact .inl ⟨next, below, settled, by rw [hword], hbelow, hsettle, rfl⟩
    · split at h
      · cases h
      · exact .inr (step_bind_eq_ok.mp h)

/-- What is read on a level and below it falls into parts, and what was typed is what they say. -/
theorem exists_reads_of_parseAt (hready : progress.awaiting? = none)
    (hopen : progress.onlyImages = false) (honce : progress.typed.Once)
    (h : parseAt level progress words = .ok levels) :
    ∃ parts below, Reads level words (parts :: below) ∧
      levels = parts.foldl Typed.add progress.total :: below.map Typed.ofParts ∧
      ∀ typed ∈ levels, typed.Once := by
  induction hcount : words.length using Nat.strongRecOn
    generalizing level progress words levels with
  | ind count ih =>
  subst hcount
  -- A part is taken in, and the rest is shorter.
  have hstep {next : Progress} {part : Part} {rest : List String}
      (hshorter : rest.length < words.length) (htakes : progress.Takes next part)
      (hrest : parseAt level next rest = .ok levels)
      (hpart : ∀ {parts below}, Reads level rest (parts :: below) →
        Reads level words ((part :: parts) :: below)) :
      ∃ parts below, Reads level words (parts :: below) ∧
        levels = parts.foldl Typed.add progress.total :: below.map Typed.ofParts ∧
        ∀ typed ∈ levels, typed.Once := by
    obtain ⟨parts, below, hreads, hlevels, hall⟩ := ih _ hshorter htakes.readyAfter
      (htakes.onlyImages.trans hopen) (htakes.once honce) hrest rfl
    exact ⟨part :: parts, below, hpart hreads, by rw [hlevels, htakes.total]; rfl, hall⟩
  cases words with
  | nil =>
    obtain ⟨typed, hfinish, hreturn⟩ := step_bind_eq_ok.mp h
    obtain ⟨rfl, -, rfl, htyped⟩ := finish_eq_ok hfinish
    cases hreturn
    exact ⟨[], [], .nothing, rfl, by simpa using htyped honce⟩
  | cons word words =>
    have hnextWord : words.length < (word :: words).length := Nat.lt_succ_self _
    obtain ⟨next, below, settled, hnext, hbelow, hsettle, rfl⟩ | ⟨next, hargument, hrest⟩ :=
      parseAt_cons_of_ready hready hopen h
    · obtain ⟨-, rfl, hsettled⟩ := settle_eq_ok hsettle
      obtain ⟨parts, others, hreads, rfl, hall⟩ := ih _ hnextWord rfl rfl once_start hbelow rfl
      refine ⟨[], parts :: others, .command hnext hreads, rfl, ?_⟩
      exact List.forall_mem_cons.mpr ⟨hsettled honce, hall⟩
    · rw [argument_of_ready hready hopen] at hargument
      cases hword : Word.of word with
      | plain =>
        rw [hword] at hargument
        obtain ⟨rfl, htakes⟩ := plain_eq_ok hargument
        exact hstep hnextWord htakes hrest (.image hword)
      | escape =>
        rw [hword] at hargument
        cases hargument
        obtain ⟨rfl, -, typed, rfl, htyped, htypedOnce⟩ := parseAt_of_onlyImages rfl hrest
        refine ⟨_, [], .terminator hword, ?_, by simpa using htypedOnce honce⟩
        rw [htyped]
        rfl
      | shorts letters =>
        rw [hword] at hargument
        obtain ⟨switches, hletters, htakes⟩ := exists_of_shorts (fun _ => hready) hargument
        exact hstep hnextWord htakes hrest (.shorts hword hletters)
      | long name value =>
        rw [hword] at hargument
        obtain ⟨switch, hname, rfl, htakes⟩ | ⟨option, given, hname, rfl, htakes⟩ |
          ⟨option, settled, hname, rfl, hsettle, rfl⟩ := long_cases hargument
        · exact hstep hnextWord htakes hrest (.long hword hname)
        · exact hstep hnextWord htakes hrest (.joined hword hname)
        · -- The option waits for the argument after it.
          obtain ⟨-, rfl, hsettled⟩ := settle_eq_ok hsettle
          obtain ⟨value, rest, rfl, hvalue, hlater⟩ :=
            parseAt_of_awaiting (by rfl) (by exact hopen) hrest
          have htakes : progress.Takes
              ⟨progress.total, some (option, some value), progress.onlyImages⟩
              (.valued option value) := ⟨hready, rfl, rfl, rfl, hsettled⟩
          have hshorter : rest.length < (word :: value :: rest).length := by
            simp only [List.length_cons]
            omega
          exact hstep hshorter htakes hlater (.separate hword hname hvalue)

/-- A command line that is understood falls into parts on three levels, and it is what they say. -/
theorem exists_reads_of_parse {arguments : List String} {line : CommandLine}
    (h : parse arguments = .ok line) : ∃ above between parts,
      Reads .program arguments [above, between, parts] ∧
        line = ofLevels [.ofParts above, .ofParts between, .ofParts parts] ∧
        (Typed.ofParts parts).Once := by
  rw [parse] at h
  cases hlevels : parseAt .program .start arguments with
  | error error => simp [hlevels, Except.map] at h
  | ok levels =>
    obtain ⟨above, below, hreads, rfl, honce⟩ :=
      exists_reads_of_parseAt rfl rfl once_start hlevels
    have hcount := hreads.length_eq
    obtain ⟨between, parts, rfl⟩ : ∃ between parts, below = [between, parts] := by
      match below, hcount with
      | [between, parts], _ => exact ⟨between, parts, rfl⟩
    rw [hlevels] at h
    cases h
    exact ⟨above, between, parts, hreads, rfl, honce _ (by simp)⟩

end Levels
end ContainerCert.CommandLine
