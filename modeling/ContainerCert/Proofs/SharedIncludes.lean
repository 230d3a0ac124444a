import ContainerCert.Proofs.IncludeRoutes
import Mathlib.Data.List.Infix

/-!
# When configuration files load

A load that fails blames the file at the end of a route: it does not read, it is too deep, or it was
loaded before, be it on the same route or on another one. Hence a load succeeds exactly when every
route ends at a file that reads, none is too long, and no two lead to the same file. A file that
two others include is refused in the words for one that includes itself.
-/

namespace ContainerCert.Config.File

open ContainerCert.Action (step_bind_eq_ok step_bind_eq_error)
open Files

/-- What the failure of a load tells about the file it blames, which is at the end of a route. -/
def Blames (files : FileTree) (lookup : String → Option String) (levels : Nat)
    (loaded : List Location) (leads : List Nat → String → Prop) (cause : LoadError) : Prop :=
  ∃ route reached, leads route reached ∧ match cause with
    | .tooDeep path => path = reached ∧ levels ≤ route.length
    | .circular path => path = reached ∧ ∃ location, StandsAt files reached location ∧
        (location ∈ loaded ∨ ∃ earlier again, earlier ≠ route ∧ leads earlier again ∧
          StandsAt files again location)
    | _ => ∀ file, readAt files lookup reached ≠ .ok file

/-- Every file that is reached through includes is there, expands and parses. -/
def AllRead (files : FileTree) (lookup : String → Option String) (path : String) : Prop :=
  ∀ route reached, Leads files lookup path route reached →
    ∃ file, readAt files lookup reached = .ok file

/-- No chain of includes is deeper than includes may go. -/
def WithinLimit (files : FileTree) (lookup : String → Option String) (path : String) : Prop :=
  ∀ route reached, Leads files lookup path route reached → route.length ≤ includeLimit

/-- Some file that is reached includes itself, directly or through other files. -/
def IncludesItself (files : FileTree) (lookup : String → Option String) (path : String) : Prop :=
  ∃ route cycle reached again location, Leads files lookup path route reached ∧ cycle ≠ [] ∧
    Leads files lookup reached cycle again ∧ StandsAt files reached location ∧
    StandsAt files again location

/-- Some file is reached on two branches: on two routes of which neither goes on from the other. -/
def IsShared (files : FileTree) (lookup : String → Option String) (path : String) : Prop :=
  ∃ first second reached again location, ¬ first <+: second ∧ ¬ second <+: first ∧
    Leads files lookup path first reached ∧ Leads files lookup path second again ∧
    StandsAt files reached location ∧ StandsAt files again location

variable {files : FileTree} {lookup : String → Option String} {levels : Nat}
  {path listed reached : String} {includes : List String} {route : List Nat}
  {loaded between after : List Location} {location : Location} {file lower result : File}
  {cause : LoadError} {leads : List Nat → String → Prop}

/-- A file that does not read is blamed by any failure that is not about levels or other files. -/
theorem Blames.of_not_read (hleads : leads route reached)
    (hread : ∀ file, readAt files lookup reached ≠ .ok file)
    (hdeep : ∀ path, cause ≠ .tooDeep path) (hcircular : ∀ path, cause ≠ .circular path) :
    Blames files lookup levels loaded leads cause := by
  refine ⟨route, reached, hleads, ?_⟩
  cases cause with
  | tooDeep path => exact absurd rfl (hdeep path)
  | circular path => exact absurd rfl (hcircular path)
  | _ => exact hread

/-- A failure that blames a file blames it also where there is more on the routes: they go on from
a longer start, more levels are left, and what was loaded before is found on other routes. -/
theorem Blames.mono {more : List Nat → String → Prop} {before : List Location}
    (extend : List Nat → List Nat) (extra : Nat)
    (h : Blames files lookup levels loaded leads cause)
    (hleads : ∀ {route reached}, leads route reached → more (extend route) reached)
    (hextend : ∀ {first second}, extend first = extend second → first = second)
    (hlength : ∀ route, (extend route).length = route.length + extra)
    (hloaded : ∀ {location}, location ∈ loaded → location ∈ before ∨
      ∃ earlier again, (∀ route reached, leads route reached → earlier ≠ extend route) ∧
        more earlier again ∧ StandsAt files again location) :
    Blames files lookup (levels + extra) before more cause := by
  obtain ⟨route, reached, hroute, htells⟩ := h
  refine ⟨extend route, reached, hleads hroute, ?_⟩
  cases cause with
  | tooDeep path => exact ⟨htells.1, by rw [hlength]; exact Nat.add_le_add_right htells.2 _⟩
  | circular path =>
    obtain ⟨hpath, location, hstands, hmem | ⟨earlier, again, hne, hagain, hsame⟩⟩ := htells
    · refine ⟨hpath, location, hstands, ?_⟩
      obtain hmem | ⟨earlier, again, hne, hagain, hsame⟩ := hloaded hmem
      · exact Or.inl hmem
      · exact Or.inr ⟨earlier, again, hne route reached hroute, hagain, hsame⟩
    · exact ⟨hpath, location, hstands, Or.inr ⟨extend earlier, again,
        fun heq => hne (hextend heq), hleads hagain, hsame⟩⟩
  | _ => exact htells

/-- The route through the file that is listed behind the one it goes through. -/
def afterNext : List Nat → List Nat
  | [] => []
  | position :: rest => (position + 1) :: rest

/-- A failure at the first of the listed files is one of all of them. -/
theorem Blames.first (h : Blames files lookup levels loaded
      (Leads files lookup (includePath path listed)) cause) :
    Blames files lookup (levels + 1) loaded
      (LeadsThrough files lookup path (listed :: includes)) cause := by
  refine h.mono (fun route => 0 :: route) 1 ?_ ?_ ?_ ?_
  · intro route reached hleads
    exact leadsThrough_cons.mpr (.inl ⟨route, rfl, hleads⟩)
  · intro first second heq
    exact List.tail_eq_of_cons_eq heq
  · intro route
    rfl
  · intro location hmem
    exact Or.inl hmem

/-- A failure behind the first of the listed files, which was loaded, is one of all of them. -/
theorem Blames.rest (hfirst : Explores files lookup levels loaded between
      (Leads files lookup (includePath path listed)))
    (h : Blames files lookup (levels + 1) between (LeadsThrough files lookup path includes) cause) :
    Blames files lookup (levels + 1) loaded
      (LeadsThrough files lookup path (listed :: includes)) cause := by
  refine h.mono afterNext 0 ?_ ?_ ?_ ?_
  · rintro _ reached ⟨position, name, rest, rfl, hlisted, hleads⟩
    exact ⟨position + 1, name, rest, rfl, hlisted, hleads⟩
  · rintro (_ | ⟨position, rest⟩) (_ | ⟨position', rest'⟩) heq <;> simp_all [afterNext]
  · rintro (_ | ⟨position, rest⟩) <;> rfl
  · intro location hmem
    obtain hmem | ⟨route, reached, hleads, hstands⟩ := hfirst.found hmem
    · exact Or.inl hmem
    · refine Or.inr ⟨0 :: route, reached, ?_, leadsThrough_cons.mpr (.inl ⟨route, rfl, hleads⟩),
        hstands⟩
      rintro _ _ ⟨position, name, rest, rfl, -⟩ heq
      cases heq

/-- A failure at the files that a file lists is one of the file. -/
theorem Blames.of_listed (hstands : StandsAt files path location)
    (hread : readAt files lookup path = .ok file)
    (h : Blames files lookup levels (location :: loaded)
      (LeadsThrough files lookup path file.includes) cause) :
    Blames files lookup levels loaded (Leads files lookup path) cause := by
  refine h.mono id 0 ?_ ?_ ?_ ?_
  · intro route reached hleads
    exact (leads_iff_of_read hread).mpr (.inr hleads)
  · intro first second heq
    exact heq
  · intro route
    rfl
  · intro other hmem
    obtain rfl | hmem := List.mem_cons.mp hmem
    · refine Or.inr ⟨[], path, ?_, .here, hstands⟩
      rintro _ _ ⟨position, name, rest, rfl, -⟩ heq
      cases heq
    · exact Or.inl hmem

/-- A load that fails blames a file that its file leads to. -/
theorem blames_of_loadAt (h : loadAt files lookup levels path loaded = .error cause) :
    Blames files lookup levels loaded (Leads files lookup path) cause := by
  induction levels generalizing path loaded cause with
  | zero =>
    cases h
    exact ⟨[], path, .here, rfl, Nat.le_refl 0⟩
  | succ levels ih =>
    have hgone {path : String} {io : IoError} (hfind : files.find path = .error io) (file : File) :
        readAt files lookup path ≠ .ok file := by
      intro hread
      obtain ⟨location, content, hfound⟩ := exists_find_of_readAt hread
      rw [hfind] at hfound
      cases hfound
    have hall (includes : List String) (lower : File) (loaded : List Location)
        (h : includes.foldlM (loadNext files lookup levels path) (lower, loaded) = .error cause) :
        Blames files lookup (levels + 1) loaded (LeadsThrough files lookup path includes) cause := by
      induction includes generalizing lower loaded with
      | nil => cases h
      | cons listed includes ihincludes =>
        rw [List.foldlM_cons, step_bind_eq_error] at h
        obtain hnext | ⟨⟨laid, between⟩, hnext, hrest⟩ := h
        · obtain ⟨io, hfind, rfl⟩ | hload := loadNext_eq_error hnext
          · exact .of_not_read (leadsThrough_cons.mpr (.inl ⟨[], rfl, .here⟩)) (hgone hfind)
              (by simp) (by simp)
          · exact (ih hload).first
        · obtain ⟨upper, hload, -⟩ := loadNext_eq_ok_iff.mp hnext
          exact (ihincludes laid between hrest).rest (explores_of_loadAt hload)
    obtain ⟨io, hfind, rfl⟩ | ⟨location, hstands, hmem, rfl⟩ | hread |
      ⟨location, file, hstands, hnew, hread, hfold⟩ := loadAt_succ_eq_error h
    · exact .of_not_read .here (hgone hfind) (by simp) (by simp)
    · exact ⟨[], path, .here, rfl, location, hstands, Or.inl hmem⟩
    · refine .of_not_read .here (by simp [hread]) ?_ ?_ <;>
        obtain ⟨_, rfl⟩ | ⟨_, rfl⟩ | ⟨_, rfl⟩ := readAt_eq_error hread <;> simp
    · exact .of_listed hstands hread (hall _ _ _ hfold)

/-- Where two routes lead to one file, it includes itself on the longer one or is shared. -/
theorem includesItself_or_isShared {first second : List Nat} {again : String}
    (hne : first ≠ second) (hfirst : Leads files lookup path first reached)
    (hsecond : Leads files lookup path second again) (hstands : StandsAt files reached location)
    (hsame : StandsAt files again location) :
    IncludesItself files lookup path ∨ IsShared files lookup path := by
  have hlonger {shorter cycle : List Nat} {reached again : String}
      (hcycle : shorter ≠ shorter ++ cycle) (hshorter : Leads files lookup path shorter reached)
      (hlonger : Leads files lookup path (shorter ++ cycle) again)
      (hstands : StandsAt files reached location) (hsame : StandsAt files again location) :
      IncludesItself files lookup path := by
    obtain ⟨between, hbetween, hrest⟩ := leads_append_iff.mp hlonger
    obtain rfl := hbetween.unique hshorter
    exact ⟨shorter, cycle, between, again, location, hshorter, by simpa using hcycle, hrest,
      hstands, hsame⟩
  by_cases hprefix : first <+: second
  · obtain ⟨cycle, rfl⟩ := hprefix
    exact Or.inl (hlonger hne hfirst hsecond hstands hsame)
  · by_cases hprefix' : second <+: first
    · obtain ⟨cycle, rfl⟩ := hprefix'
      exact Or.inl (hlonger (Ne.symm hne) hsecond hfirst hsame hstands)
    · exact Or.inr ⟨first, second, reached, again, location, hprefix, hprefix', hfirst, hsecond,
        hstands, hsame⟩

/-- What is explored includes no file twice. -/
theorem Explores.not_includesItself
    (h : Explores files lookup levels loaded after (Leads files lookup path)) :
    ¬ IncludesItself files lookup path := by
  rintro ⟨route, cycle, reached, again, location, hroute, hcycle, hagain, hstands, hsame⟩
  have hlonger := leads_append_iff.mpr ⟨reached, hroute, hagain⟩
  have heq := h.once hroute hlonger hstands hsame
  exact hcycle (by simpa using heq)

theorem Explores.not_isShared
    (h : Explores files lookup levels loaded after (Leads files lookup path)) :
    ¬ IsShared files lookup path := by
  rintro ⟨first, second, reached, again, location, hprefix, -, hfirst, hsecond, hstands, hsame⟩
  exact hprefix (h.once hfirst hsecond hstands hsame ▸ List.prefix_rfl)

theorem loadWithIncludes_eq_error (h : loadWithIncludes files lookup path = .error cause) :
    Blames files lookup (includeLimit + 1) [] (Leads files lookup path) cause := by
  simp only [loadWithIncludes, step_bind_eq_error] at h
  obtain hload | ⟨_, _, hreturn⟩ := h
  · exact blames_of_loadAt hload
  · cases hreturn

/-- A load that is called circular has come to one file on two routes. -/
theorem exists_of_circular
    (h : loadWithIncludes files lookup path = .error (.circular reached)) :
    IncludesItself files lookup path ∨ IsShared files lookup path := by
  obtain ⟨route, _, hroute, rfl, location, hstands, hmem | ⟨earlier, again, hne, hagain, hsame⟩⟩ :=
    loadWithIncludes_eq_error h
  · cases hmem
  · exact includesItself_or_isShared hne hagain hroute hsame hstands

/-- Where all files read and none is too deep, the only failure is one that is called circular. -/
theorem eq_circular_of_allRead (hread : AllRead files lookup path)
    (hdepth : WithinLimit files lookup path)
    (h : loadWithIncludes files lookup path = .error cause) :
    ∃ reached, cause = .circular reached := by
  obtain ⟨route, reached, hroute, htells⟩ := loadWithIncludes_eq_error h
  obtain ⟨file, hfile⟩ := hread route reached hroute
  cases cause with
  | circular again => exact ⟨again, rfl⟩
  | tooDeep => exact absurd (hdepth route reached hroute) (Nat.not_le.mpr htells.2)
  | _ => exact absurd hfile (htells file)

/-- A load succeeds exactly when all files that are reached read, no chain of includes is too deep,
no file includes itself, and none is shared by two branches. Where only the last fails, the load is
refused in the words for a file that includes itself; they are used for these two alone. -/
theorem loads_unless_circular_or_shared (files : FileTree) (lookup : String → Option String)
    (path : String) :
    ((∃ file, loadWithIncludes files lookup path = .ok file) ↔
      AllRead files lookup path ∧ WithinLimit files lookup path ∧
        ¬ IncludesItself files lookup path ∧ ¬ IsShared files lookup path) ∧
    (AllRead files lookup path → WithinLimit files lookup path → IsShared files lookup path →
      ∃ reached, loadWithIncludes files lookup path = .error (.circular reached)) ∧
    ∀ reached, loadWithIncludes files lookup path = .error (.circular reached) →
      IncludesItself files lookup path ∨ IsShared files lookup path := by
  have hexplores {file : File} (h : loadWithIncludes files lookup path = .ok file) :
      ∃ after, Explores files lookup (includeLimit + 1) [] after (Leads files lookup path) := by
    obtain ⟨after, hload⟩ := loadWithIncludes_eq_ok_iff.mp h
    exact ⟨after, explores_of_loadAt hload⟩
  refine ⟨⟨?_, ?_⟩, ?_, fun reached => exists_of_circular⟩
  · rintro ⟨file, hload⟩
    obtain ⟨after, h⟩ := hexplores hload
    exact ⟨fun _ _ => h.reads, fun _ _ hleads => Nat.le_of_lt_succ (h.shallow hleads),
      h.not_includesItself, h.not_isShared⟩
  · rintro ⟨hread, hdepth, hcycle, hshared⟩
    cases hload : loadWithIncludes files lookup path with
    | ok file => exact ⟨file, rfl⟩
    | error cause =>
      obtain ⟨reached, rfl⟩ := eq_circular_of_allRead hread hdepth hload
      exact ((exists_of_circular hload).elim hcycle hshared).elim
  · intro hread hdepth hshared
    cases hload : loadWithIncludes files lookup path with
    | ok file =>
      obtain ⟨after, h⟩ := hexplores hload
      exact absurd hshared h.not_isShared
    | error cause =>
      obtain ⟨reached, rfl⟩ := eq_circular_of_allRead hread hdepth hload
      exact ⟨reached, rfl⟩

/-- A file that includes two others, each of which includes the same base. -/
def sharedBase : FileTree where
  entries := [
    (["preflight.toml"], .file "includes = [\"left.toml\", \"right.toml\"]".toUTF8),
    (["left.toml"], .file "includes = [\"base.toml\"]".toUTF8),
    (["right.toml"], .file "includes = [\"base.toml\"]".toUTF8),
    (["base.toml"], .file "platform = \"arm64\"".toUTF8)]
  workingDirectory := []

/-- The routes from the file that includes two others. -/
def sharedBaseRoutes : List (List Nat × String) :=
  [([], "preflight.toml"), ([0], "left.toml"), ([0, 0], "base.toml"), ([1], "right.toml"),
    ([1, 0], "base.toml")]

/-- No file includes itself, and yet a base that two files include is called circular. -/
theorem shared_base_is_called_circular :
    let lookup : String → Option String := fun _ => none
    AllRead sharedBase lookup "preflight.toml" ∧ WithinLimit sharedBase lookup "preflight.toml" ∧
      ¬ IncludesItself sharedBase lookup "preflight.toml" ∧
      loadWithIncludes sharedBase lookup "preflight.toml" = .error (.circular "base.toml") := by
  intro lookup
  have hmain : readAt sharedBase lookup "preflight.toml" =
      .ok { empty with includes := ["left.toml", "right.toml"] } := by decide +kernel
  have hleft : readAt sharedBase lookup "left.toml" =
      .ok { empty with includes := ["base.toml"] } := by decide +kernel
  have hright : readAt sharedBase lookup "right.toml" =
      .ok { empty with includes := ["base.toml"] } := by decide +kernel
  have hbase : readAt sharedBase lookup "base.toml" =
      .ok { empty with platform := some "arm64" } := by decide +kernel
  have hpaths : includePath "preflight.toml" "left.toml" = "left.toml" ∧
      includePath "preflight.toml" "right.toml" = "right.toml" ∧
      includePath "left.toml" "base.toml" = "base.toml" ∧
      includePath "right.toml" "base.toml" = "base.toml" := by decide +kernel
  have hroutes {route : List Nat} {reached : String}
      (h : Leads sharedBase lookup "preflight.toml" route reached) :
      (route, reached) ∈ sharedBaseRoutes := by
    simp only [leads_iff_of_read hmain, leads_iff_of_read hleft, leads_iff_of_read hright,
      leads_iff_of_read hbase, leadsThrough_cons, not_leadsThrough_nil, hpaths, empty] at h
    simp only [sharedBaseRoutes, List.mem_cons, Prod.mk.injEq]
    grind
  have hplaces : ∀ entry ∈ sharedBaseRoutes,
      (sharedBase.find entry.2).map (·.1) = .ok [entry.2] := by decide +kernel
  have hshallow : ∀ entry ∈ sharedBaseRoutes, entry.1.length ≤ includeLimit := by decide
  have hends : ∀ first ∈ sharedBaseRoutes, ∀ second ∈ sharedBaseRoutes, first.2 = second.2 →
      first.1 <+: second.1 → first.1 = second.1 := by decide
  refine ⟨?_, fun route reached h => hshallow _ (hroutes h), ?_, by decide +kernel⟩
  · intro route reached h
    have hmem := hroutes h
    simp only [sharedBaseRoutes, List.mem_cons, Prod.mk.injEq, List.not_mem_nil, or_false] at hmem
    obtain ⟨-, rfl⟩ | ⟨-, rfl⟩ | ⟨-, rfl⟩ | ⟨-, rfl⟩ | ⟨-, rfl⟩ := hmem
    · exact ⟨_, hmain⟩
    · exact ⟨_, hleft⟩
    · exact ⟨_, hbase⟩
    · exact ⟨_, hright⟩
    · exact ⟨_, hbase⟩
  · rintro ⟨route, cycle, reached, again, location, hroute, hcycle, hagain, hstands, hsame⟩
    have hlonger := hroutes (leads_append_iff.mpr ⟨reached, hroute, hagain⟩)
    have hname {route : List Nat} {path : String} (hmem : (route, path) ∈ sharedBaseRoutes)
        (hstands : StandsAt sharedBase path location) : location = [path] := by
      obtain ⟨node, hnode⟩ := hstands
      have hplace := hplaces _ hmem
      rw [hnode] at hplace
      exact Except.ok.inj hplace
    have hpath : reached = again :=
      List.singleton_inj.mp ((hname (hroutes hroute) hstands).symm.trans (hname hlonger hsame))
    have heq := hends _ (hroutes hroute) _ hlonger hpath (List.prefix_append route cycle)
    exact hcycle (by simpa using heq)

end ContainerCert.Config.File
