import ContainerCert.Config.Includes
import ContainerCert.Proofs.FileTrees
import ContainerCert.Proofs.ParentPaths

/-!
# Where included files are found

A path that leads to a file ends with a name in the directory of the file, and the segments before
the name lead to that directory. A file that another lists among its includes is therefore found
where its path leads from the directory of the file that lists it.
-/

namespace ContainerCert.Files

open ContainerCert.Files.Path

/-- What stands at a place. A path that asks for a directory leads to no file. -/
def Place.settled (place : Place) : Except IoError (Location × Node) := do
  let place ← place.named
  match place.node with
  | none => throw .notFound
  | some (.file content) =>
    if place.ending = .slash then throw .notADirectory else return (place.location, .file content)
  | some .directory => return (place.location, .directory)

namespace FileTree

/-- Find what stands where a path leads from a directory. -/
def findFrom (tree : FileTree) (directory : Location) (path : String) :
    Except IoError (Location × Node) := do
  let place ← tree.follow directory .dots (segments path)
  place.settled

/-- The directory that segments lead to through directories only. -/
def descend (tree : FileTree) : Location → List String → Option Location
  | location, [] => some location
  | location, segment :: rest =>
    if segment = "" ∨ segment = "." then descend tree location rest
    else if segment = ".." then descend tree location.dropLast rest
    else if tree.node? (location ++ [segment]) = some .directory then
      descend tree (location ++ [segment]) rest
    else none

variable {tree : FileTree} {origin directory : Location} {ending : PathEnd}
  {front back : List String}

theorem find_eq (tree : FileTree) (path : String) :
    tree.find path = tree.locate path >>= Place.settled := by
  unfold find Place.settled
  rfl

/-- Segments that lead to a directory are followed from there on. -/
theorem exists_follow_append (h : tree.descend origin front = some directory) (ending : PathEnd)
    (back : List String) :
    ∃ ended, tree.follow origin ending (front ++ back) = tree.follow directory ended back := by
  fun_induction descend tree origin front generalizing ending with
  | case1 location =>
    cases h
    exact ⟨ending, rfl⟩
  | case2 location segment rest hidle ih =>
    obtain rfl | rfl := hidle
    · exact ih h _
    · exact ih h _
  | case3 location rest hidle ih => exact ih h _
  | case4 location segment rest hidle hdots hnext ih =>
    obtain ⟨ended, hrest⟩ := ih h .name
    refine ⟨ended, ?_⟩
    rw [not_or] at hidle
    rw [List.cons_append, follow, if_neg hidle.1, if_neg hidle.2, if_neg hdots]
    simp only [hnext]
    exact hrest
  | case5 location segment rest hidle hdots hnext => cases h

/-- Idle segments lead nowhere. -/
theorem descend_append_of_idle (hidle : ∀ segment ∈ back, segment = "" ∨ segment = ".") :
    tree.descend origin (front ++ back) = tree.descend origin front := by
  fun_induction descend tree origin front with
  | case1 location =>
    induction back with
    | nil => rfl
    | cons segment rest ih =>
      rw [List.nil_append, descend, if_pos (hidle segment List.mem_cons_self)]
      exact ih fun other hmem => hidle other (List.mem_cons_of_mem _ hmem)
  | case2 location segment rest hsegment ih => rw [List.cons_append, descend, if_pos hsegment, ih]
  | case3 location rest hsegment ih =>
    rw [List.cons_append, descend, if_neg hsegment, if_pos rfl, ih]
  | case4 location segment rest hsegment hdots hnext ih =>
    rw [List.cons_append, descend, if_neg hsegment, if_neg hdots, if_pos hnext, ih]
  | case5 location segment rest hsegment hdots hnext =>
    rw [List.cons_append, descend, if_neg hsegment, if_neg hdots, if_neg hnext]

/-- How a path ends matters only where it leads to a file, and there it does not matter how the path
began. -/
theorem follow_settled (tree : FileTree) (origin : Location) (ending ended : PathEnd)
    (segments : List String) :
    tree.follow origin ending segments >>= Place.settled =
      tree.follow origin ended segments >>= Place.settled := by
  induction segments generalizing origin ending ended with
  | nil =>
    change Place.settled _ = Place.settled _
    unfold Place.settled Place.named
    split <;> rfl
  | cons segment rest ih =>
    rw [follow, follow]
    by_cases hempty : segment = ""
    · rw [if_pos hempty, if_pos hempty]
      exact ih _ _ _
    · rw [if_neg hempty, if_neg hempty]

/-- Segments that lead through directories to one, and then to a name in it. -/
def EndsIn (tree : FileTree) (origin : Location) (segments : List String)
    (directory : Location) : Prop :=
  ∃ front name, segments = front ++ [name] ∧ name ≠ "" ∧ name ≠ "." ∧
    tree.descend origin front = some directory

theorem EndsIn.cons {next : Location} {segment : String} {rest : List String}
    (h : tree.EndsIn next rest directory)
    (hsegment : ∀ front, tree.descend origin (segment :: front) = tree.descend next front) :
    tree.EndsIn origin (segment :: rest) directory := by
  obtain ⟨front, name, rfl, hempty, hdot, hfront⟩ := h
  exact ⟨segment :: front, name, rfl, hempty, hdot, by rw [hsegment, hfront]⟩

/-- A path that leads to a file ends with a name in the directory of the file. -/
theorem endsIn_of_follow {place : Location} {content : ByteArray} {ended : PathEnd}
    {segments : List String} (hended : ended ≠ .slash)
    (h : tree.follow origin ending segments = .ok ⟨place, some (.file content), ended⟩) :
    tree.EndsIn origin segments place.dropLast := by
  fun_induction follow tree origin ending segments with
  | case1 origin ending => cases h
  | case2 origin ending rest ih => exact (ih h).cons fun front => rfl
  | case3 origin ending rest hempty ih => exact (ih h).cons fun front => rfl
  | case4 origin ending rest hempty hdot ih => exact (ih h).cons fun front => rfl
  | case5 origin ending segment rest hempty hdot hdots next hnext ih =>
    refine (ih h).cons fun front => ?_
    rw [descend, if_neg (by simp [hempty, hdot]), if_neg hdots, if_pos hnext]
  | case6 origin ending segment hempty hdot hdots next hnext =>
    obtain ⟨rfl, -, -⟩ := Place.mk.inj (Except.ok.inj h)
    exact ⟨[], segment, rfl, hempty, hdot, by simp [descend, next]⟩
  | case7 origin ending segment rest hempty hdot hdots next hrest hblank hnext =>
    exact absurd (Place.mk.inj (Except.ok.inj h)).2.2.symm hended
  | case8 origin ending segment rest hempty hdot hdots next hrest hblank hlong hnext => cases h
  | case9 origin ending segment rest hempty hdot hdots next hrest hblank hlong hnext => cases h

/-- Where a path starts to lead from. -/
def originOf (tree : FileTree) (path : String) : Location :=
  if isAbsolute path then [] else tree.workingDirectory

theorem follow_of_locate {path : String} {place : Place} (h : tree.locate path = .ok place) :
    tree.follow (tree.originOf path) .dots (segments path) = .ok place := by
  unfold locate at h
  split at h
  · cases h
  · split at h
    · cases h
    · split at h
      · cases h
      · exact h

/-- A path at which a file is found leads to it, and does not ask for a directory. -/
theorem locate_of_find {path : String} {location : Location} {content : ByteArray}
    (h : tree.find path = .ok (location, .file content)) :
    ∃ ended, ended ≠ .slash ∧
      tree.locate path = .ok ⟨location, some (.file content), ended⟩ := by
  rw [find_eq] at h
  obtain ⟨⟨place, node, ended⟩, hlocate, hsettled⟩ := Action.step_bind_eq_ok.mp h
  simp only [Place.settled] at hsettled
  obtain ⟨named, hnamed, hnode⟩ := Action.step_bind_eq_ok.mp hsettled
  unfold Place.named at hnamed
  split at hnamed
  · cases hnamed
  · cases hnamed
    rcases node with _ | _ | held
    · cases hnode
    · cases hnode
    · simp only at hnode
      split at hnode
      · cases hnode
      · next hended =>
        cases hnode
        exact ⟨ended, hended, hlocate⟩

/-- The file that is found at a path stands at its location. -/
theorem node?_of_find {path : String} {location : Location} {content : ByteArray}
    (h : tree.find path = .ok (location, .file content)) :
    tree.node? location = some (.file content) := by
  obtain ⟨ended, -, hlocate⟩ := locate_of_find h
  exact (locate_ends hlocate (by simp)).1.symm

/-- What is found at a path that leads to a file ends in the directory of the file. -/
theorem endsIn_of_find {path : String} {location : Location} {content : ByteArray}
    (h : tree.find path = .ok (location, .file content)) :
    tree.EndsIn (tree.originOf path) (segments path) location.dropLast := by
  obtain ⟨ended, hended, hlocate⟩ := locate_of_find h
  exact endsIn_of_follow hended (follow_of_locate hlocate)

/-- An included file is found where its listed path leads from the directory of the file that lists
it, or from the root if that path is absolute. -/
theorem findFrom_of_find_includePath {path listed : String} {location : Location}
    {content : ByteArray} {found : Location × Node}
    (hpath : tree.find path = .ok (location, .file content))
    (h : tree.find (Config.File.includePath path listed) = .ok found) :
    tree.findFrom (if isAbsolute listed then [] else location.dropLast) listed = .ok found := by
  rw [find_eq] at h
  obtain ⟨place, hlocate, hsettled⟩ := Action.step_bind_eq_ok.mp h
  have hfollow := follow_of_locate hlocate
  cases hrelative : isAbsolute listed with
  | true =>
    have hsame : Config.File.includePath path listed = listed := by
      rw [Config.File.includePath, join, hrelative, if_pos rfl]
    rw [hsame, originOf, hrelative, if_pos rfl] at hfollow
    exact Action.step_bind_eq_ok.mpr ⟨place, hfollow, hsettled⟩
  | false =>
    obtain ⟨front, name, hsegments, hempty, hdot, hfront⟩ := endsIn_of_find hpath
    obtain ⟨names, lasts, hsplit, rfl, hlast⟩ := List.map_eq_append_iff.mp hsegments
    obtain ⟨last, rfl, rfl⟩ := List.map_eq_singleton_iff.mp hlast
    have hname : isIdle last = false := by
      cases hidle : isIdle last with
      | false => rfl
      | true =>
        obtain rfl | rfl : last = [] ∨ last = ['.'] := by simpa [isIdle] using hidle
        · exact absurd rfl hempty
        · exact absurd rfl hdot
    obtain ⟨base, kept, hparent, hspells, ⟨idles, rfl, hidles⟩, hstarts⟩ :=
      exists_parent? hsplit hname
    have hinclude : Config.File.includePath path listed = join base listed := by
      rw [Config.File.includePath, hparent, Option.getD_some]
    have horigin : tree.originOf (join base listed) = tree.originOf path := by
      rw [originOf, originOf, isAbsolute_join hrelative, hstarts]
    have hbehind : segments (join base listed) = kept.map String.ofList ++ segments listed := by
      rw [segments, segments, splitAt_join hspells hrelative, List.map_append]
    have hidleNames : ∀ segment ∈ idles.map String.ofList, segment = "" ∨ segment = "." := by
      intro segment hmem
      obtain ⟨part, hpart, rfl⟩ := List.mem_map.mp hmem
      obtain rfl | rfl : part = [] ∨ part = ['.'] := by simpa [isIdle] using hidles part hpart
      · exact Or.inl rfl
      · exact Or.inr rfl
    rw [List.map_append, descend_append_of_idle hidleNames] at hfront
    obtain ⟨ended, hrest⟩ := exists_follow_append hfront .dots (segments listed)
    rw [hinclude, horigin, hbehind, hrest] at hfollow
    have hfound : tree.follow location.dropLast ended (segments listed) >>= Place.settled =
        .ok found := Action.step_bind_eq_ok.mpr ⟨place, hfollow, hsettled⟩
    rw [follow_settled tree location.dropLast ended .dots] at hfound
    exact hfound

end FileTree
end ContainerCert.Files
