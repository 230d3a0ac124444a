import ContainerCert.Proofs.LayeredIncludes
import ContainerCert.Proofs.SharedIncludes
import Mathlib.Logic.Relation

/-!
# How a load goes through files

A load goes into files in depth, and reads one where it has not been before. Every load comes to an
end, whatever the files list: it is never deeper than one level below the last that is allowed, where
it turns back, and it reads no location twice. The files that list one another are a graph over
locations. A load that succeeds has a route along every walk in it, and no two routes to one
location, so there is no cycle where it went.
-/

namespace ContainerCert.Config.File

open ContainerCert.Action (step_bind_eq_ok)
open Files
open Relation (ReflTransGen TransGen)

/-- What a load comes to: it goes into a file at a depth, and it reads what is at a location. -/
inductive Visit where
  | entered (depth : Nat) (path : String)
  | read (location : Location)

/-- The location that is read, if one is. -/
def Visit.location? : Visit → Option Location
  | .entered _ _ => none
  | .read location => some location

/-- The locations that are read, in order. -/
def reads (visits : List Visit) : List Location :=
  visits.filterMap Visit.location?

/-- What is to be loaded: a file at a depth, or what is left of those that a file lists, to be laid
over those before. -/
inductive Load where
  | file (depth : Nat) (path : String)
  | listed (depth : Nat) (path : String) (includes : List String) (lower : File)

/-- How a load goes through files, what it comes to, and how it ends. The locations that were loaded
before come in. -/
inductive Runs (files : FileTree) (lookup : String → Option String) :
    Load → List Location → List Visit → Except LoadError (File × List Location) → Prop
  | tooDeep {depth : Nat} {path : String} {loaded : List Location} :
      includeLimit < depth →
      Runs files lookup (.file depth path) loaded [.entered depth path] (.error (.tooDeep path))
  | unresolved {depth : Nat} {path : String} {loaded : List Location} {cause : IoError} :
      depth ≤ includeLimit → files.find path = .error cause →
      Runs files lookup (.file depth path) loaded [.entered depth path]
        (.error (.unresolved path cause))
  | circular {depth : Nat} {path : String} {loaded : List Location} {location : Location}
      {node : Node} :
      depth ≤ includeLimit → files.find path = .ok (location, node) → location ∈ loaded →
      Runs files lookup (.file depth path) loaded [.entered depth path] (.error (.circular path))
  | unread {depth : Nat} {path : String} {loaded : List Location} {location : Location}
      {node : Node} {cause : LoadError} :
      depth ≤ includeLimit → files.find path = .ok (location, node) → location ∉ loaded →
      readAt files lookup path = .error cause →
      Runs files lookup (.file depth path) loaded [.entered depth path, .read location]
        (.error cause)
  | read {depth : Nat} {path : String} {loaded : List Location} {location : Location}
      {node : Node} {file : File} {visits : List Visit}
      {outcome : Except LoadError (File × List Location)} :
      depth ≤ includeLimit → files.find path = .ok (location, node) → location ∉ loaded →
      readAt files lookup path = .ok file →
      Runs files lookup (.listed depth path file.includes empty) (location :: loaded) visits
        outcome →
      Runs files lookup (.file depth path) loaded
        (.entered depth path :: .read location :: visits)
        (outcome.map fun state => (file.laidOver state.1, state.2))
  | nil {depth : Nat} {path : String} {lower : File} {loaded : List Location} :
      Runs files lookup (.listed depth path [] lower) loaded [] (.ok (lower, loaded))
  | missing {depth : Nat} {path listed : String} {includes : List String} {lower : File}
      {loaded : List Location} :
      files.doesExist (includePath path listed) = false →
      Runs files lookup (.listed depth path (listed :: includes) lower) loaded []
        (.error (.missing (includePath path listed) listed))
  | fails {depth : Nat} {path listed : String} {includes : List String} {lower : File}
      {loaded : List Location} {visits : List Visit} {cause : LoadError} :
      files.doesExist (includePath path listed) = true →
      Runs files lookup (.file (depth + 1) (includePath path listed)) loaded visits
        (.error cause) →
      Runs files lookup (.listed depth path (listed :: includes) lower) loaded visits
        (.error cause)
  | next {depth : Nat} {path listed : String} {includes : List String} {lower upper : File}
      {loaded between : List Location} {first rest : List Visit}
      {outcome : Except LoadError (File × List Location)} :
      files.doesExist (includePath path listed) = true →
      Runs files lookup (.file (depth + 1) (includePath path listed)) loaded first
        (.ok (upper, between)) →
      Runs files lookup (.listed depth path includes (upper.laidOver lower)) between rest
        outcome →
      Runs files lookup (.listed depth path (listed :: includes) lower) loaded (first ++ rest)
        outcome

/-- One location includes another: the file there lists a path that leads to the other, from the
directory of the file or from the root. -/
def Includes (files : FileTree) (lookup : String → Option String)
    (location included : Location) : Prop :=
  ∃ path content file listed node, files.find path = .ok (location, .file content) ∧
    readAt files lookup path = .ok file ∧ listed ∈ file.includes ∧
    files.findFrom (if Path.isAbsolute listed then [] else location.dropLast) listed =
      .ok (included, node)

/-- What a load gives, with the levels that are left at its depth. -/
def Load.outcome (files : FileTree) (lookup : String → Option String) (loaded : List Location) :
    Load → Except LoadError (File × List Location)
  | .file depth path => loadAt files lookup (includeLimit + 1 - depth) path loaded
  | .listed depth path includes lower =>
    includes.foldlM (loadNext files lookup (includeLimit - depth) path) (lower, loaded)

/-- The files of a load are no deeper than one level below the last that is allowed. -/
def Load.Within : Load → Prop
  | .file depth _ => depth ≤ includeLimit + 1
  | .listed depth _ _ _ => depth ≤ includeLimit

variable {files : FileTree} {lookup : String → Option String} {levels depth : Nat}
  {path listed reached : String} {load : Load} {loaded after : List Location}
  {visits : List Visit} {outcome : Except LoadError (File × List Location)}
  {location included : Location} {route : List Nat} {file lower : File} {cause : LoadError}

@[simp] theorem reads_nil : reads [] = [] := rfl

@[simp] theorem reads_entered : reads (.entered depth path :: visits) = reads visits := rfl

@[simp] theorem reads_read : reads (.read location :: visits) = location :: reads visits := rfl

theorem reads_append (first rest : List Visit) :
    reads (first ++ rest) = reads first ++ reads rest :=
  List.filterMap_append

section Outcomes

theorem outcome_of_find_error {io : IoError} (hdepth : depth ≤ includeLimit)
    (hfind : files.find path = .error io) :
    (Load.file depth path).outcome files lookup loaded = .error (.unresolved path io) := by
  rw [Load.outcome, Nat.sub_add_comm hdepth, loadAt_succ, hfind]
  rfl

/-- A file that is there is refused if it was loaded before, and otherwise read and laid over what
it lists. -/
theorem outcome_of_find {node : Node} (hdepth : depth ≤ includeLimit)
    (hfind : files.find path = .ok (location, node)) :
    (Load.file depth path).outcome files lookup loaded =
      if location ∈ loaded then .error (.circular path)
      else readAt files lookup path >>= fun file =>
        ((Load.listed depth path file.includes empty).outcome files lookup
          (location :: loaded)).map fun state => (file.laidOver state.1, state.2) := by
  rw [Load.outcome, Nat.sub_add_comm hdepth, loadAt_succ, hfind]
  rfl

/-- What is left of the listed files goes on from the first of them. -/
theorem outcome_listed_cons (includes : List String)
    (hthere : files.doesExist (includePath path listed) = true) :
    (Load.listed depth path (listed :: includes) lower).outcome files lookup loaded =
      (Load.file (depth + 1) (includePath path listed)).outcome files lookup loaded >>=
        fun state => (Load.listed depth path includes (state.1.laidOver lower)).outcome files lookup
          state.2 := by
  change (listed :: includes).foldlM _ _ = loadAt files lookup (includeLimit + 1 - (depth + 1)) _ _
    >>= _
  rw [List.foldlM_cons, loadNext, hthere, Nat.add_sub_add_right]
  cases loadAt files lookup (includeLimit - depth) (includePath path listed) loaded <;> rfl

theorem outcome_of_not_doesExist {includes : List String}
    (hgone : files.doesExist (includePath path listed) = false) :
    (Load.listed depth path (listed :: includes) lower).outcome files lookup loaded =
      .error (.missing (includePath path listed) listed) := by
  change (listed :: includes).foldlM _ _ = _
  rw [List.foldlM_cons, loadNext, hgone]
  rfl

/-- A load goes through files to what it gives. -/
theorem Runs.outcome_eq (h : Runs files lookup load loaded visits outcome) :
    load.outcome files lookup loaded = outcome := by
  induction h with
  | tooDeep hdeep => rw [Load.outcome, Nat.sub_eq_zero_of_le hdeep, loadAt]
  | unresolved hdepth hfind => exact outcome_of_find_error hdepth hfind
  | circular hdepth hfind hmem => rw [outcome_of_find hdepth hfind, if_pos hmem]
  | unread hdepth hfind hnew hread =>
    rw [outcome_of_find hdepth hfind, if_neg hnew, hread]
    rfl
  | read hdepth hfind hnew hread _ ih =>
    rw [outcome_of_find hdepth hfind, if_neg hnew, hread, ← ih]
    rfl
  | nil => rfl
  | missing hgone => exact outcome_of_not_doesExist hgone
  | fails hthere _ ih =>
    rw [outcome_listed_cons _ hthere, ih]
    rfl
  | next hthere _ _ ihfirst ihrest =>
    rw [outcome_listed_cons _ hthere, ihfirst, ← ihrest]
    rfl

/-- A load goes one way. -/
theorem Runs.unique {others : List Visit} {ending : Except LoadError (File × List Location)}
    (h : Runs files lookup load loaded visits outcome)
    (hother : Runs files lookup load loaded others ending) : visits = others ∧ outcome = ending := by
  refine ⟨?_, h.outcome_eq.symm.trans hother.outcome_eq⟩
  induction h generalizing others ending with
  | tooDeep hdeep => cases hother with
    | tooDeep => rfl
    | unresolved hdepth | circular hdepth | unread hdepth | read hdepth => omega
  | unresolved hdepth hfind => cases hother with
    | tooDeep hdeep => omega
    | unresolved => rfl
    | circular _ hfound | unread _ hfound | read _ hfound => simp [hfind] at hfound
  | circular hdepth hfind hmem => cases hother with
    | tooDeep hdeep => omega
    | unresolved | circular => rfl
    | unread _ hfound hnew | read _ hfound hnew =>
      cases hfind.symm.trans hfound
      exact absurd hmem hnew
  | unread hdepth hfind hnew hread => cases hother with
    | tooDeep hdeep => omega
    | unresolved _ hlost => simp [hfind] at hlost
    | circular _ hfound hmem =>
      cases hfind.symm.trans hfound
      exact absurd hmem hnew
    | unread _ hfound =>
      cases hfind.symm.trans hfound
      rfl
    | read _ _ _ hagain => simp [hread] at hagain
  | read hdepth hfind hnew hread _ ih => cases hother with
    | tooDeep hdeep => omega
    | unresolved _ hlost => simp [hfind] at hlost
    | circular _ hfound hmem =>
      cases hfind.symm.trans hfound
      exact absurd hmem hnew
    | unread _ _ _ hagain => simp [hread] at hagain
    | read _ hfound _ hagain hlisted =>
      cases hfind.symm.trans hfound
      cases hread.symm.trans hagain
      rw [ih hlisted]
  | nil =>
    cases hother
    rfl
  | missing hgone => cases hother with
    | missing => rfl
    | fails hthere | next hthere => simp [hgone] at hthere
  | fails hthere hfirst ih => cases hother with
    | missing hgone => simp [hgone] at hthere
    | fails _ hagain => exact ih hagain
    | next _ hagain =>
      have hne := hfirst.outcome_eq.symm.trans hagain.outcome_eq
      cases hne
  | next hthere hfirst hrest ihfirst ihrest => cases hother with
    | missing hgone => simp [hgone] at hthere
    | fails _ hagain =>
      have hne := hfirst.outcome_eq.symm.trans hagain.outcome_eq
      cases hne
    | next _ hagain hlater =>
      have heq := hfirst.outcome_eq.symm.trans hagain.outcome_eq
      cases heq
      rw [ihfirst hagain, ihrest hlater]

end Outcomes

section Ending

/-- Where every file one level deeper comes to an end, so do those that are listed. -/
theorem exists_runs_listed
    (hdeeper : ∀ path loaded, ∃ visits outcome,
      Runs files lookup (.file (depth + 1) path) loaded visits outcome)
    (path : String) (includes : List String) (lower : File) (loaded : List Location) :
    ∃ visits outcome,
      Runs files lookup (.listed depth path includes lower) loaded visits outcome := by
  induction includes generalizing lower loaded with
  | nil => exact ⟨_, _, .nil⟩
  | cons listed includes ih =>
    cases hthere : files.doesExist (includePath path listed) with
    | false => exact ⟨_, _, .missing hthere⟩
    | true =>
      obtain ⟨first, outcome, hfirst⟩ := hdeeper (includePath path listed) loaded
      cases outcome with
      | error cause => exact ⟨_, _, .fails hthere hfirst⟩
      | ok state =>
        obtain ⟨rest, outcome, hrest⟩ := ih (state.1.laidOver lower) state.2
        exact ⟨_, _, .next hthere hfirst hrest⟩

/-- Every load comes to an end. The induction is on the levels that are left. -/
theorem exists_runs (files : FileTree) (lookup : String → Option String) (levels : Nat)
    (hlevels : includeLimit + 1 - depth = levels) (path : String) (loaded : List Location) :
    ∃ visits outcome, Runs files lookup (.file depth path) loaded visits outcome := by
  induction levels generalizing depth path loaded with
  | zero => exact ⟨_, _, .tooDeep (Nat.sub_eq_zero_iff_le.mp hlevels)⟩
  | succ levels ih =>
    have hdepth : depth ≤ includeLimit := by omega
    cases hfind : files.find path with
    | error cause => exact ⟨_, _, .unresolved hdepth hfind⟩
    | ok place =>
      by_cases hmem : place.1 ∈ loaded
      · exact ⟨_, _, .circular hdepth hfind hmem⟩
      · cases hread : readAt files lookup path with
        | error cause => exact ⟨_, _, .unread hdepth hfind hmem hread⟩
        | ok file =>
          have hdeeper : includeLimit + 1 - (depth + 1) = levels := by omega
          obtain ⟨visits, outcome, hlisted⟩ := exists_runs_listed (ih hdeeper) path file.includes
            empty (place.1 :: loaded)
          exact ⟨_, _, .read hdepth hfind hmem hread hlisted⟩

end Ending

section Visits

/-- No file is deeper than one level below the last that is allowed. -/
theorem Runs.depth_le (h : Runs files lookup load loaded visits outcome) (hwithin : load.Within)
    (hentered : .entered depth reached ∈ visits) : depth ≤ includeLimit + 1 := by
  induction h with
  | tooDeep | unresolved | circular =>
    cases List.mem_singleton.mp hentered
    exact hwithin
  | unread =>
    obtain ⟨rfl, rfl⟩ : _ ∧ _ := by simpa using hentered
    exact hwithin
  | read hdepth _ _ _ _ ih =>
    obtain ⟨rfl, rfl⟩ | hlisted : _ ∨ _ := by simpa using hentered
    · exact hwithin
    · exact ih hdepth hlisted
  | nil | missing => cases hentered
  | fails _ _ ih => exact ih (Nat.succ_le_succ hwithin) hentered
  | next _ _ _ ihfirst ihrest =>
    obtain hfirst | hrest := List.mem_append.mp hentered
    · exact ihfirst (Nat.succ_le_succ hwithin) hfirst
    · exact ihrest hwithin hrest

/-- What was loaded after a load that succeeds is what it read and what was loaded before. -/
theorem Runs.after_eq (h : Runs files lookup load loaded visits outcome)
    (hok : outcome = .ok (file, after)) : after = (reads visits).reverse ++ loaded := by
  induction h generalizing file after with
  | tooDeep | unresolved | circular | unread | missing | fails => cases hok
  | @read _ _ _ _ _ _ _ outcome _ _ _ _ _ ih =>
    cases outcome with
    | error cause => cases hok
    | ok state =>
      cases hok
      rw [ih rfl, reads_entered, reads_read, List.reverse_cons, List.append_assoc]
      rfl
  | nil =>
    cases hok
    rfl
  | next _ _ _ ihfirst ihrest =>
    rw [ihrest hok, ihfirst rfl, reads_append, List.reverse_append, List.append_assoc]

/-- No location is read that was loaded before, and none is read twice. -/
theorem Runs.reads_nodup (h : Runs files lookup load loaded visits outcome) :
    (reads visits).Nodup ∧ ∀ location ∈ reads visits, location ∉ loaded := by
  induction h with
  | tooDeep | unresolved | circular | nil | missing => simp
  | unread _ _ hnew => simpa using hnew
  | read _ _ hnew _ _ ih =>
    obtain ⟨hnodup, hfresh⟩ := ih
    rw [reads_entered, reads_read, List.nodup_cons, List.forall_mem_cons]
    refine ⟨⟨fun hmem => hfresh _ hmem List.mem_cons_self, hnodup⟩, hnew, ?_⟩
    intro location hmem hloaded
    exact hfresh location hmem (List.mem_cons_of_mem _ hloaded)
  | fails _ _ ih => exact ih
  | next _ hfirst _ ihfirst ihrest =>
    -- What was read of the first file is among what was loaded before the others.
    have hbetween := hfirst.after_eq rfl
    obtain ⟨hnodup, hfresh⟩ := ihrest
    simp only [hbetween, List.mem_append, List.mem_reverse, not_or] at hfresh
    rw [reads_append, List.nodup_append, List.forall_mem_append]
    refine ⟨⟨ihfirst.1, hnodup, ?_⟩, ihfirst.2, fun location hmem => (hfresh location hmem).2⟩
    rintro location hmem _ hagain rfl
    exact (hfresh location hagain).1 hmem

end Visits

section Cycles

/-- What a file says depends on what it holds, and not on the path that leads to it. -/
theorem readAt_of_find {content : ByteArray} {other : String}
    (hread : readAt files lookup path = .ok file)
    (hfind : files.find path = .ok (location, .file content))
    (hother : files.find other = .ok (location, .file content)) :
    readAt files lookup other = .ok file := by
  have htext : files.readText other = files.readText path := by
    unfold FileTree.readText FileTree.read
    rw [hfind, hother]
  simp only [readAt, step_bind_eq_ok, Action.mapError_eq_ok] at hread ⊢
  rwa [htext]

/-- Where a route leads to a location, it goes on to what the location includes. -/
theorem Explores.exists_leads_of_includes
    (h : Explores files lookup levels loaded after (Leads files lookup path))
    (hleads : Leads files lookup path route reached) (hstands : StandsAt files reached location)
    (hincludes : Includes files lookup location included) :
    ∃ position next, Leads files lookup path (route ++ [position]) next ∧
      StandsAt files next included := by
  obtain ⟨other, content, file, listed, node, hother, hread, hlisted, hfrom⟩ := hincludes
  obtain ⟨place, held, read, hfind, hreached, hresolved⟩ := h.resolved hleads
  obtain rfl := hstands.unique ⟨_, hfind⟩
  -- Both paths lead to the one file that stands at the location.
  have hheld : some (Node.file held) = some (.file content) :=
    (FileTree.node?_of_find hfind).symm.trans (FileTree.node?_of_find hother)
  cases hheld
  obtain rfl : read = file :=
    Except.ok.inj (hreached.symm.trans (readAt_of_find hread hother hfind))
  obtain ⟨found, hincluded, hfound⟩ := hresolved listed hlisted
  obtain rfl : found = (included, node) := Except.ok.inj (hfound.symm.trans hfrom)
  obtain ⟨position, hposition⟩ := List.mem_iff_getElem?.mp hlisted
  exact ⟨position, includePath reached listed,
    leads_append_iff.mpr ⟨reached, hleads, .next hreached hposition .here⟩, node, hincluded⟩

/-- Where a route leads to a location, it goes on along every walk from there. -/
theorem Explores.exists_leads_of_walk {target : Location}
    (h : Explores files lookup levels loaded after (Leads files lookup path))
    (hleads : Leads files lookup path route reached) (hstands : StandsAt files reached location)
    (hwalk : ReflTransGen (Includes files lookup) location target) :
    ∃ further next, Leads files lookup path (route ++ further) next ∧
      StandsAt files next target := by
  induction hwalk with
  | refl => exact ⟨[], reached, by rwa [List.append_nil], hstands⟩
  | tail _ hincludes ih =>
    obtain ⟨further, between, hbetween, hplace⟩ := ih
    obtain ⟨position, next, hnext, hincluded⟩ :=
      h.exists_leads_of_includes hbetween hplace hincludes
    exact ⟨further ++ [position], next, by rwa [← List.append_assoc], hincluded⟩

/-- Where a load goes and succeeds, nothing includes itself through others: the routes around a
cycle would lead to one location. -/
theorem Explores.not_cycle
    (h : Explores files lookup levels loaded after (Leads files lookup path))
    (hleads : Leads files lookup path route reached) (hstands : StandsAt files reached location) :
    ¬ TransGen (Includes files lookup) location location := by
  intro hcycle
  obtain ⟨last, hwalk, hback⟩ := TransGen.tail'_iff.mp hcycle
  obtain ⟨further, between, hbetween, hplace⟩ := h.exists_leads_of_walk hleads hstands hwalk
  obtain ⟨position, again, hagain, hsame⟩ := h.exists_leads_of_includes hbetween hplace hback
  have heq := h.once hleads hagain hstands hsame
  simp at heq

/-- A cycle of includes that can be reached makes a load fail. -/
theorem exists_error_of_cycle {root : Location} (hroot : StandsAt files path root)
    (hwalk : ReflTransGen (Includes files lookup) root location)
    (hcycle : TransGen (Includes files lookup) location location) :
    ∃ cause, loadWithIncludes files lookup path = .error cause := by
  cases hload : loadWithIncludes files lookup path with
  | error cause => exact ⟨cause, rfl⟩
  | ok file =>
    obtain ⟨after, hfile⟩ := loadWithIncludes_eq_ok_iff.mp hload
    have hexplores := explores_of_loadAt hfile
    obtain ⟨further, reached, hleads, hstands⟩ :=
      hexplores.exists_leads_of_walk .here hroot hwalk
    exact absurd hcycle (hexplores.not_cycle hleads hstands)

end Cycles

/-- Whatever files there are and whatever they list, a load comes to an end on the one way it can go,
and gives what is at the end. It reads no location twice, has loaded what it has read, and goes into
no file that is deeper than one level below the last that is allowed. Where a cycle of includes can
be reached from the file that is loaded, the load fails. -/
theorem load_ends_and_refuses_cycles (files : FileTree) (lookup : String → Option String)
    (path : String) :
    (∃ visits outcome, Runs files lookup (.file 0 path) [] visits outcome ∧
      (∀ others ending, Runs files lookup (.file 0 path) [] others ending →
        others = visits ∧ ending = outcome) ∧
      loadWithIncludes files lookup path = outcome.map Prod.fst ∧
      (reads visits).Nodup ∧
      (∀ file after, outcome = .ok (file, after) → after = (reads visits).reverse) ∧
      ∀ depth reached, .entered depth reached ∈ visits → depth ≤ includeLimit + 1) ∧
    ∀ root location, StandsAt files path root →
      ReflTransGen (Includes files lookup) root location →
      TransGen (Includes files lookup) location location →
      ∃ cause, loadWithIncludes files lookup path = .error cause := by
  obtain ⟨visits, outcome, h⟩ := exists_runs files lookup _ rfl path []
  refine ⟨⟨visits, outcome, h, fun others ending hother => hother.unique h, ?_, h.reads_nodup.1,
    fun file after hok => ?_, fun depth reached => h.depth_le (Nat.zero_le _)⟩,
    fun root location hroot hwalk hcycle => exists_error_of_cycle hroot hwalk hcycle⟩
  · have houtcome : loadAt files lookup (includeLimit + 1) path [] = outcome := h.outcome_eq
    rw [loadWithIncludes, houtcome]
    cases outcome <;> rfl
  · rw [h.after_eq hok, List.append_nil]

/-- Two files that include each other. -/
def encircled : FileTree where
  entries := [
    (["first.toml"], .file "includes = [\"second.toml\"]".toUTF8),
    (["second.toml"], .file "includes = [\"./first.toml\"]".toUTF8)]
  workingDirectory := []

example :
    let lookup : String → Option String := fun _ => none
    TransGen (Includes encircled lookup) ["first.toml"] ["first.toml"] ∧
      loadWithIncludes encircled lookup "first.toml" = .error (.circular "./first.toml") := by
  intro lookup
  have hfirst : Includes encircled lookup ["first.toml"] ["second.toml"] :=
    ⟨"first.toml", _, { empty with includes := ["second.toml"] }, "second.toml",
      .file "includes = [\"./first.toml\"]".toUTF8, rfl, by decide +kernel,
      List.mem_singleton_self _, by decide +kernel⟩
  have hsecond : Includes encircled lookup ["second.toml"] ["first.toml"] :=
    ⟨"second.toml", _, { empty with includes := ["./first.toml"] }, "./first.toml",
      .file "includes = [\"second.toml\"]".toUTF8, rfl, by decide +kernel,
      List.mem_singleton_self _, by decide +kernel⟩
  exact ⟨.tail (.single hfirst) hsecond, by decide +kernel⟩

end ContainerCert.Config.File
