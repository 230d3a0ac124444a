import ContainerCert.Config.Includes
import ContainerCert.Proofs.Actions

/-!
# Routes through included files

A route tells which of the listed files to go to at every step. A load goes through all routes from
its file in depth: one that succeeds has read a file at the end of every route, has gone no deeper
than its levels allow, and has come to no file twice.
-/

namespace ContainerCert.Config.File

open ContainerCert.Action (step_bind_eq_ok step_bind_eq_error)
open Files

/-- A route of includes leads from one path to another: each step goes to the file that stands at a
position among those that are listed. -/
inductive Leads (files : FileTree) (lookup : String → Option String) :
    String → List Nat → String → Prop
  | here {path : String} : Leads files lookup path [] path
  | next {path reached listed : String} {file : File} {position : Nat} {route : List Nat} :
      readAt files lookup path = .ok file → file.includes[position]? = some listed →
      Leads files lookup (includePath path listed) route reached →
      Leads files lookup path (position :: route) reached

/-- A path leads to something that stands at a location. -/
def StandsAt (files : FileTree) (path : String) (location : Location) : Prop :=
  ∃ node, files.find path = .ok (location, node)

/-- A route leads to a path through one of the files that are listed. -/
def LeadsThrough (files : FileTree) (lookup : String → Option String) (path : String)
    (includes : List String) (route : List Nat) (reached : String) : Prop :=
  ∃ position listed rest, route = position :: rest ∧ includes[position]? = some listed ∧
    Leads files lookup (includePath path listed) rest reached

/-- Load one more of the files that are listed, and lay it over those before. -/
def loadNext (files : FileTree) (lookup : String → Option String) (levels : Nat) (path : String)
    (state : File × List Location) (listed : String) :
    Except LoadError (File × List Location) := do
  if !files.doesExist (includePath path listed) then
    throw (.missing (includePath path listed) listed)
  let (upper, loaded) ← loadAt files lookup levels (includePath path listed) state.2
  return (upper.laidOver state.1, loaded)

/-- What a load of files goes through: where routes lead, files read, no route has as many steps as
there are levels, and each file is one that was not loaded before and comes to be loaded once. -/
structure Explores (files : FileTree) (lookup : String → Option String) (levels : Nat)
    (loaded after : List Location) (leads : List Nat → String → Prop) : Prop where
  reads {route : List Nat} {reached : String} : leads route reached →
    ∃ file, readAt files lookup reached = .ok file
  shallow {route : List Nat} {reached : String} : leads route reached → route.length < levels
  fresh {route : List Nat} {reached : String} {location : Location} : leads route reached →
    StandsAt files reached location → location ∉ loaded
  noted {route : List Nat} {reached : String} {location : Location} : leads route reached →
    StandsAt files reached location → location ∈ after
  kept {location : Location} : location ∈ loaded → location ∈ after
  found {location : Location} : location ∈ after → location ∈ loaded ∨
    ∃ route reached, leads route reached ∧ StandsAt files reached location
  once {first second : List Nat} {reached again : String} {location : Location} :
    leads first reached → leads second again → StandsAt files reached location →
    StandsAt files again location → first = second

variable {files : FileTree} {lookup : String → Option String} {levels : Nat}
  {path listed reached : String} {includes : List String} {route : List Nat}
  {loaded between after : List Location} {location : Location} {file lower result : File}
  {cause : LoadError}

/-- A path stands for one location. -/
theorem StandsAt.unique {other : Location} (h : StandsAt files path location)
    (hother : StandsAt files path other) : location = other := by
  obtain ⟨node, hnode⟩ := h
  obtain ⟨node', hnode'⟩ := hother
  rw [hnode] at hnode'
  cases hnode'
  rfl

theorem leads_iff : Leads files lookup path route reached ↔
    route = [] ∧ reached = path ∨
      ∃ file, readAt files lookup path = .ok file ∧
        LeadsThrough files lookup path file.includes route reached := by
  constructor
  · rintro (_ | ⟨hread, hlisted, hrest⟩)
    · exact Or.inl ⟨rfl, rfl⟩
    · exact Or.inr ⟨_, hread, _, _, _, rfl, hlisted, hrest⟩
  · rintro (⟨rfl, rfl⟩ | ⟨file, hread, position, listed, rest, rfl, hlisted, hrest⟩)
    · exact .here
    · exact .next hread hlisted hrest

/-- From a file that reads, a route stays there or goes through what the file lists. -/
theorem leads_iff_of_read (hread : readAt files lookup path = .ok file) :
    Leads files lookup path route reached ↔
      route = [] ∧ reached = path ∨ LeadsThrough files lookup path file.includes route reached := by
  rw [leads_iff, hread]
  simp

theorem not_leadsThrough_nil : ¬ LeadsThrough files lookup path [] route reached := by
  rintro ⟨position, listed, rest, -, hlisted, -⟩
  cases hlisted

/-- A route goes through the first of the listed files, or through one behind it. -/
theorem leadsThrough_cons : LeadsThrough files lookup path (listed :: includes) route reached ↔
    (∃ rest, route = 0 :: rest ∧ Leads files lookup (includePath path listed) rest reached) ∨
      ∃ position rest, route = (position + 1) :: rest ∧
        LeadsThrough files lookup path includes (position :: rest) reached := by
  constructor
  · rintro ⟨_ | position, name, rest, rfl, hlisted, hrest⟩
    · cases hlisted
      exact Or.inl ⟨rest, rfl, hrest⟩
    · exact Or.inr ⟨position, rest, rfl, position, name, rest, rfl, hlisted, hrest⟩
  · rintro (⟨rest, rfl, hrest⟩ | ⟨position, rest, rfl, _, name, _, heq, hlisted, hrest⟩)
    · exact ⟨0, listed, rest, rfl, rfl, hrest⟩
    · cases heq
      exact ⟨position + 1, name, rest, rfl, hlisted, hrest⟩

/-- A route has one end. -/
theorem Leads.unique {again : String} (h : Leads files lookup path route reached)
    (hagain : Leads files lookup path route again) : reached = again := by
  induction h with
  | here =>
    cases hagain
    rfl
  | next hread hlisted _ ih =>
    cases hagain with
    | next hread' hlisted' hrest' =>
      rw [hread] at hread'
      cases hread'
      rw [hlisted] at hlisted'
      cases hlisted'
      exact ih hrest'

/-- A longer route goes on from the end of a shorter one. -/
theorem leads_append_iff {further : List Nat} :
    Leads files lookup path (route ++ further) reached ↔
      ∃ between, Leads files lookup path route between ∧
        Leads files lookup between further reached := by
  induction route generalizing path with
  | nil =>
    constructor
    · intro h
      exact ⟨path, .here, h⟩
    · rintro ⟨between, hhere, hrest⟩
      cases hhere
      exact hrest
  | cons position route ih =>
    constructor
    · rintro (_ | ⟨hread, hlisted, hrest⟩)
      obtain ⟨between, hroute, hfurther⟩ := ih.mp hrest
      exact ⟨between, .next hread hlisted hroute, hfurther⟩
    · rintro ⟨between, _ | ⟨hread, hlisted, hroute⟩, hfurther⟩
      exact .next hread hlisted (ih.mpr ⟨between, hroute, hfurther⟩)

/-- What reads is a file that is found. -/
theorem exists_find_of_readAt (h : readAt files lookup path = .ok file) :
    ∃ location content, files.find path = .ok (location, .file content) := by
  simp only [readAt, step_bind_eq_ok, Action.mapError_eq_ok, FileTree.readText,
    FileTree.read] at h
  obtain ⟨text, ⟨bytes, ⟨⟨location, node⟩, hfind, hbytes⟩, -⟩, -⟩ := h
  cases node with
  | directory => cases hbytes
  | file content => exact ⟨location, content, hfind⟩

section Steps

/-- Reading one file by itself knows nothing of other files. -/
theorem readAt_eq_error (h : readAt files lookup path = .error cause) :
    (∃ io, cause = .unreadable path io) ∨ (∃ fault, cause = .expansion fault) ∨
      ∃ fault, cause = .malformed path fault := by
  simp only [readAt, step_bind_eq_error, Action.mapError_eq_error] at h
  obtain ⟨io, -, rfl⟩ | ⟨_, -, ⟨fault, -, rfl⟩ | ⟨_, -, fault, -, rfl⟩⟩ := h
  · exact Or.inl ⟨io, rfl⟩
  · exact Or.inr (Or.inl ⟨fault, rfl⟩)
  · exact Or.inr (Or.inr ⟨fault, rfl⟩)

/-- A load reads the file, loads what it lists, and lays the file over that. -/
theorem loadAt_succ (files : FileTree) (lookup : String → Option String) (levels : Nat)
    (path : String) (loaded : List Location) :
    loadAt files lookup (levels + 1) path loaded =
      (files.find path).mapError (.unresolved path) >>= fun place =>
        if place.1 ∈ loaded then .error (.circular path)
        else readAt files lookup path >>= fun file =>
          file.includes.foldlM (loadNext files lookup levels path) (empty, place.1 :: loaded) >>=
            fun state => .ok (file.laidOver state.1, state.2) :=
  rfl

theorem loadAt_succ_eq_ok_iff :
    loadAt files lookup (levels + 1) path loaded = .ok (result, after) ↔
      ∃ location file included, StandsAt files path location ∧ location ∉ loaded ∧
        readAt files lookup path = .ok file ∧
        file.includes.foldlM (loadNext files lookup levels path) (empty, location :: loaded) =
          .ok (included, after) ∧
        result = file.laidOver included := by
  rw [loadAt_succ]
  simp only [step_bind_eq_ok, Action.mapError_eq_ok]
  constructor
  · rintro ⟨⟨location, node⟩, hfind, h⟩
    split at h
    · cases h
    · next hnew =>
      simp only [step_bind_eq_ok] at h
      obtain ⟨file, hread, ⟨included, _⟩, hfold, hreturn⟩ := h
      cases hreturn
      exact ⟨location, file, included, ⟨node, hfind⟩, hnew, hread, hfold, rfl⟩
  · rintro ⟨location, file, included, ⟨node, hfind⟩, hnew, hread, hfold, rfl⟩
    refine ⟨(location, node), hfind, ?_⟩
    rw [if_neg hnew]
    simp only [step_bind_eq_ok]
    exact ⟨file, hread, (included, after), hfold, rfl⟩

/-- A load fails at the file itself, which is not there, was loaded before or does not read, or at
one of those it lists. -/
theorem loadAt_succ_eq_error (h : loadAt files lookup (levels + 1) path loaded = .error cause) :
    (∃ io, files.find path = .error io ∧ cause = .unresolved path io) ∨
      (∃ location, StandsAt files path location ∧ location ∈ loaded ∧ cause = .circular path) ∨
      readAt files lookup path = .error cause ∨
      ∃ location file, StandsAt files path location ∧ location ∉ loaded ∧
        readAt files lookup path = .ok file ∧
        file.includes.foldlM (loadNext files lookup levels path) (empty, location :: loaded) =
          .error cause := by
  rw [loadAt_succ] at h
  simp only [step_bind_eq_error, Action.mapError_eq_error, Action.mapError_eq_ok] at h
  obtain ⟨io, hfind, rfl⟩ | ⟨⟨location, node⟩, hfind, h⟩ := h
  · exact Or.inl ⟨io, hfind, rfl⟩
  · split at h
    · next hmem =>
      cases h
      exact Or.inr (Or.inl ⟨location, ⟨node, hfind⟩, hmem, rfl⟩)
    · next hnew =>
      simp only [step_bind_eq_error] at h
      obtain hread | ⟨file, hread, hfold | ⟨state, -, hreturn⟩⟩ := h
      · exact Or.inr (Or.inr (Or.inl hread))
      · exact Or.inr (Or.inr (Or.inr ⟨location, file, ⟨node, hfind⟩, hnew, hread, hfold⟩))
      · cases hreturn

/-- One more listed file is there and is loaded, and lies over those before. -/
theorem loadNext_eq_ok_iff :
    loadNext files lookup levels path (lower, loaded) listed = .ok (result, after) ↔
      ∃ upper, loadAt files lookup levels (includePath path listed) loaded = .ok (upper, after) ∧
        result = upper.laidOver lower := by
  have hthere {upper : File}
      (h : loadAt files lookup levels (includePath path listed) loaded = .ok (upper, after)) :
      files.doesExist (includePath path listed) = true := by
    cases levels with
    | zero => cases h
    | succ levels =>
      obtain ⟨_, _, _, ⟨node, hfind⟩, -⟩ := loadAt_succ_eq_ok_iff.mp h
      rw [FileTree.doesExist, hfind]
      rfl
  unfold loadNext
  constructor
  · intro h
    split at h
    · cases h
    · obtain ⟨⟨upper, _⟩, hload, hreturn⟩ := step_bind_eq_ok.mp h
      cases hreturn
      exact ⟨upper, hload, rfl⟩
  · rintro ⟨upper, hload, rfl⟩
    rw [hthere hload, Bool.not_true, if_neg Bool.false_ne_true]
    exact step_bind_eq_ok.mpr ⟨(upper, after), hload, rfl⟩

theorem loadNext_eq_error
    (h : loadNext files lookup levels path (lower, loaded) listed = .error cause) :
    (∃ io, files.find (includePath path listed) = .error io ∧
        cause = .missing (includePath path listed) listed) ∨
      loadAt files lookup levels (includePath path listed) loaded = .error cause := by
  unfold loadNext at h
  split at h
  · next hgone =>
    cases h
    cases hfind : files.find (includePath path listed) with
    | error io => exact Or.inl ⟨io, rfl, rfl⟩
    | ok place =>
      rw [FileTree.doesExist, hfind] at hgone
      cases hgone
  · obtain hload | ⟨_, _, hreturn⟩ := step_bind_eq_error.mp h
    · exact Or.inr hload
    · cases hreturn

/-- What holds where a file is read, if it holds of laying what the file lists over one another, holds
of every load that succeeds. -/
theorem loadAt_induction {p : Nat → String → List Location → File → List Location → Prop}
    {q : Nat → String → List String → File × List Location → File × List Location → Prop}
    (hnil : ∀ {levels path state}, q levels path [] state state)
    (hcons : ∀ {levels path listed includes lower loaded upper between state},
      p levels (includePath path listed) loaded upper between →
      q levels path includes (upper.laidOver lower, between) state →
      q levels path (listed :: includes) (lower, loaded) state)
    (hread : ∀ {levels path location loaded file included after}, StandsAt files path location →
      location ∉ loaded → readAt files lookup path = .ok file →
      q levels path file.includes (empty, location :: loaded) (included, after) →
      p (levels + 1) path loaded (file.laidOver included) after)
    (h : loadAt files lookup levels path loaded = .ok (result, after)) :
    p levels path loaded result after := by
  induction levels generalizing path loaded result after with
  | zero => cases h
  | succ levels ih =>
    have hall (includes : List String) (state state' : File × List Location)
        (h : includes.foldlM (loadNext files lookup levels path) state = .ok state') :
        q levels path includes state state' := by
      induction includes generalizing state with
      | nil =>
        cases h
        exact hnil
      | cons listed includes ihincludes =>
        rw [List.foldlM_cons, step_bind_eq_ok] at h
        obtain ⟨⟨laid, between⟩, hnext, hrest⟩ := h
        obtain ⟨upper, hload, rfl⟩ := loadNext_eq_ok_iff.mp hnext
        exact hcons (ih hload) (ihincludes _ hrest)
    obtain ⟨location, file, included, hstands, hnew, hfile, hfold, rfl⟩ :=
      loadAt_succ_eq_ok_iff.mp h
    exact hread hstands hnew hfile (hall _ _ _ hfold)

theorem loadWithIncludes_eq_ok_iff : loadWithIncludes files lookup path = .ok file ↔
    ∃ after, loadAt files lookup (includeLimit + 1) path [] = .ok (file, after) := by
  simp only [loadWithIncludes, step_bind_eq_ok]
  constructor
  · rintro ⟨⟨_, after⟩, hload, hreturn⟩
    cases hreturn
    exact ⟨after, hload⟩
  · rintro ⟨after, hload⟩
    exact ⟨(file, after), hload, rfl⟩

end Steps

section Exploring

variable {leads : List Nat → String → Prop}

/-- Where nothing is listed, nothing is loaded. -/
theorem Explores.nil : Explores files lookup (levels + 1) loaded loaded
    (LeadsThrough files lookup path []) where
  reads h := absurd h not_leadsThrough_nil
  shallow h := absurd h not_leadsThrough_nil
  fresh h := absurd h not_leadsThrough_nil
  noted h := absurd h not_leadsThrough_nil
  kept h := h
  found h := Or.inl h
  once h := absurd h not_leadsThrough_nil

/-- The first of the listed files is loaded, then those behind it; what the first one led to was
loaded before, so they do not lead there. -/
theorem Explores.cons
    (hfirst : Explores files lookup levels loaded between
      (Leads files lookup (includePath path listed)))
    (hrest : Explores files lookup (levels + 1) between after
      (LeadsThrough files lookup path includes)) :
    Explores files lookup (levels + 1) loaded after
      (LeadsThrough files lookup path (listed :: includes)) where
  reads h := by
    obtain ⟨rest, rfl, hleads⟩ | ⟨position, rest, rfl, hleads⟩ := leadsThrough_cons.mp h
    · exact hfirst.reads hleads
    · exact hrest.reads hleads
  shallow h := by
    obtain ⟨rest, rfl, hleads⟩ | ⟨position, rest, rfl, hleads⟩ := leadsThrough_cons.mp h
    · exact Nat.succ_lt_succ (hfirst.shallow hleads)
    · simpa using hrest.shallow hleads
  fresh h hstands hmem := by
    obtain ⟨rest, rfl, hleads⟩ | ⟨position, rest, rfl, hleads⟩ := leadsThrough_cons.mp h
    · exact hfirst.fresh hleads hstands hmem
    · exact hrest.fresh hleads hstands (hfirst.kept hmem)
  noted h hstands := by
    obtain ⟨rest, rfl, hleads⟩ | ⟨position, rest, rfl, hleads⟩ := leadsThrough_cons.mp h
    · exact hrest.kept (hfirst.noted hleads hstands)
    · exact hrest.noted hleads hstands
  kept hmem := hrest.kept (hfirst.kept hmem)
  found hmem := by
    obtain hmem | ⟨route, reached, hleads, hstands⟩ := hrest.found hmem
    · obtain hmem | ⟨route, reached, hleads, hstands⟩ := hfirst.found hmem
      · exact Or.inl hmem
      · exact Or.inr ⟨_, reached, leadsThrough_cons.mpr (.inl ⟨route, rfl, hleads⟩), hstands⟩
    · obtain ⟨position, name, rest, rfl, hlisted, hleads⟩ := hleads
      exact Or.inr ⟨(position + 1) :: rest, reached,
        ⟨position + 1, name, rest, rfl, hlisted, hleads⟩, hstands⟩
  once h h' hstands hstands' := by
    obtain ⟨rest, rfl, hleads⟩ | ⟨position, rest, rfl, hleads⟩ := leadsThrough_cons.mp h <;>
      obtain ⟨rest', rfl, hleads'⟩ | ⟨position', rest', rfl, hleads'⟩ := leadsThrough_cons.mp h'
    · rw [hfirst.once hleads hleads' hstands hstands']
    · exact absurd (hfirst.noted hleads hstands) (hrest.fresh hleads' hstands')
    · exact absurd (hfirst.noted hleads' hstands') (hrest.fresh hleads hstands)
    · obtain ⟨rfl, rfl⟩ := List.cons.inj (hrest.once hleads hleads' hstands hstands')
      rfl

/-- A file that was not loaded before is loaded, and then what it lists. -/
theorem Explores.read (hstands : StandsAt files path location) (hnew : location ∉ loaded)
    (hread : readAt files lookup path = .ok file)
    (hlisted : Explores files lookup (levels + 1) (location :: loaded) after
      (LeadsThrough files lookup path file.includes)) :
    Explores files lookup (levels + 1) loaded after (Leads files lookup path) := by
  have hsplit {route : List Nat} {reached : String} (h : Leads files lookup path route reached) :
      route = [] ∧ reached = path ∨ LeadsThrough files lookup path file.includes route reached :=
    (leads_iff_of_read hread).mp h
  constructor
  case reads =>
    intro route reached h
    obtain ⟨rfl, rfl⟩ | h := hsplit h
    · exact ⟨file, hread⟩
    · exact hlisted.reads h
  case shallow =>
    intro route reached h
    obtain ⟨rfl, rfl⟩ | h := hsplit h
    · exact Nat.succ_pos _
    · exact hlisted.shallow h
  case fresh =>
    intro route reached other h hother hmem
    obtain ⟨rfl, rfl⟩ | h := hsplit h
    · exact hnew (hstands.unique hother ▸ hmem)
    · exact hlisted.fresh h hother (List.mem_cons_of_mem _ hmem)
  case noted =>
    intro route reached other h hother
    obtain ⟨rfl, rfl⟩ | h := hsplit h
    · exact hlisted.kept (hstands.unique hother ▸ List.mem_cons_self)
    · exact hlisted.noted h hother
  case kept =>
    intro other hmem
    exact hlisted.kept (List.mem_cons_of_mem _ hmem)
  case found =>
    intro other hmem
    obtain hmem | ⟨route, reached, h, hother⟩ := hlisted.found hmem
    · obtain rfl | hmem := List.mem_cons.mp hmem
      · exact Or.inr ⟨[], path, .here, hstands⟩
      · exact Or.inl hmem
    · exact Or.inr ⟨route, reached, (leads_iff_of_read hread).mpr (.inr h), hother⟩
  case once =>
    intro first second reached again other h h' hother hother'
    have hpath {route : List Nat} {reached : String}
        (h : LeadsThrough files lookup path file.includes route reached)
        (hreached : StandsAt files reached other) (hroot : StandsAt files path other) : False :=
      hlisted.fresh h hreached (hstands.unique hroot ▸ List.mem_cons_self)
    obtain ⟨rfl, rfl⟩ | h := hsplit h <;> obtain ⟨rfl, rfl⟩ | h' := hsplit h'
    · rfl
    · exact (hpath h' hother' hother).elim
    · exact (hpath h hother hother').elim
    · exact hlisted.once h h' hother hother'

/-- A load that succeeds explores all that its file leads to. -/
theorem explores_of_loadAt
    (h : loadAt files lookup levels path loaded = .ok (result, after)) :
    Explores files lookup levels loaded after (Leads files lookup path) :=
  loadAt_induction
    (p := fun levels path loaded _ after =>
      Explores files lookup levels loaded after (Leads files lookup path))
    (q := fun levels path includes state state' =>
      Explores files lookup (levels + 1) state.2 state'.2
        (LeadsThrough files lookup path includes))
    .nil .cons .read h

end Exploring

end ContainerCert.Config.File
