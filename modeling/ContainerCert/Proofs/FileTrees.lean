import ContainerCert.Files.FileTree
import ContainerCert.Proofs.Actions

/-!
# What files hold after writing

A path is followed through directories only, so putting anything where no directory stands does
not change where a path leads. From this come the two laws of writing: a file that was written is
read as it was written, and what is put at another place does not change how it is read.
-/

namespace ContainerCert

namespace Files

theorem Path.isAbsolute_eq_false {path : String} (h : '/' ∉ path.toList) :
    isAbsolute path = false := by
  unfold isAbsolute
  cases hhead : path.toList.head? with
  | none => rfl
  | some c =>
    have hc : c ≠ '/' := fun heq => h (heq ▸ List.mem_of_mem_head? hhead)
    simpa using hc

/-- A name without slashes is the last segment of its path in a directory. -/
theorem FileTree.segments_join_getLast? (directory : String) {name : String}
    (h : '/' ∉ name.toList) :
    (segments (Path.join directory name)).getLast? = some name := by
  have halone : segments name = [name] := by
    rw [segments, Text.splitAt_of_not_mem h, List.map_singleton, String.ofList_toList]
  have hbehind {base : String} {rest : List Char} (hbase : base.toList = rest ++ ['/']) :
      (segments (base ++ name)).getLast? = some name := by
    rw [segments, String.toList_append, hbase, List.append_assoc, List.singleton_append,
      Text.splitAt_append, Text.splitAt_of_not_mem h, List.map_append, List.map_singleton,
      String.ofList_toList, List.getLast?_concat]
  rw [Path.join, Path.isAbsolute_eq_false h]
  simp only [Bool.false_eq_true, if_false]
  split
  · rw [halone]
    rfl
  · next hslash =>
    obtain ⟨rest, hrest⟩ := List.getLast?_eq_some_iff.mp hslash
    exact hbehind hrest
  · exact hbehind (String.toList_append ..)

namespace FileTree

variable {tree : FileTree} {location place : Location} {node : Node}

/-- What is found after one node was put in the place of another. -/
theorem find?_map_replace (entries : List (Location × Node)) :
    ((entries.map fun (place, old) =>
        if place = location then (place, node) else (place, old)).find? (·.1 == place)).map (·.2) =
      if place = location then
        (entries.find? (·.1 == location)).map fun _ => node
      else (entries.find? (·.1 == place)).map (·.2) := by
  induction entries with
  | nil => simp
  | cons entry entries ih =>
    obtain ⟨other, old⟩ := entry
    by_cases hother : other = location <;> by_cases hplace : place = location <;>
      by_cases hsame : other = place <;> simp_all

/-- What was put at a location stands there, and at all other places what stood there before. -/
theorem node?_put (h : location ≠ []) :
    (tree.put location node).node? place =
      if place = location then some node else tree.node? place := by
  by_cases hroot : place = []
  · simp [hroot, node?, Ne.symm h]
  · unfold put
    split
    · next hany =>
      simp only [node?, hroot, if_false, find?_map_replace]
      split
      · obtain ⟨entry, hmem, hentry⟩ := List.any_eq_true.mp hany
        cases hfind : tree.entries.find? (·.1 == location) with
        | none => exact absurd hentry (List.find?_eq_none.mp hfind entry hmem)
        | some found => rfl
      · rfl
    · next hnone =>
      have hnew : tree.entries.find? (·.1 == location) = none := by
        rw [List.find?_eq_none]
        intro entry hmem hentry
        exact hnone (List.any_eq_true.mpr ⟨entry, hmem, hentry⟩)
      simp only [node?, hroot, if_false, List.find?_append]
      split
      · next hplace => simp [hplace, hnew]
      · next hplace => simp [Ne.symm hplace]

/-- What is put in the place of what was put just before leaves nothing of it. -/
theorem put_put (other : Node) :
    (tree.put location node).put location other = tree.put location other := by
  by_cases hany : tree.entries.any (·.1 == location) = true
  · have hstill : ((tree.entries.map fun (place, old) =>
        if place = location then (place, node) else (place, old)).any (·.1 == location)) =
          true := by
      obtain ⟨⟨place, old⟩, hmem, hentry⟩ := List.any_eq_true.mp hany
      obtain rfl : place = location := by simpa using hentry
      exact List.any_eq_true.mpr ⟨_, List.mem_map_of_mem hmem, by simp⟩
    simp only [put, hany, hstill, if_true, List.map_map]
    congr 1
    refine List.map_congr_left fun ⟨place, old⟩ _ => ?_
    by_cases hplace : place = location <;> simp [hplace]
  · have hkept : (tree.entries.map fun (place, old) =>
        if place = location then (place, other) else (place, old)) = tree.entries := by
      refine (List.map_congr_left fun ⟨place, old⟩ hmem => ?_).trans (List.map_id _)
      have hplace : place ≠ location := fun heq =>
        hany (List.any_eq_true.mpr ⟨_, hmem, by simp [heq]⟩)
      simp [hplace]
    simp [put, hany, hkept]

theorem workingDirectory_put :
    (tree.put location node).workingDirectory = tree.workingDirectory := by
  unfold put
  split <;> rfl

/-- Following a path from a place that nothing was put at leads to the same place, where what was
put stands if it is the place. -/
theorem follow_put {origin : Location} {ending ended : PathEnd} {segments : List String}
    {found : Option Node} (hlocation : location ≠ [])
    (hplace : tree.node? location ≠ some .directory)
    (h : tree.follow origin ending segments = .ok ⟨place, found, ended⟩)
    (hfound : found ≠ some .directory) (hnode : place = location → node ≠ .directory) :
    (tree.put location node).follow origin ending segments =
      .ok ⟨place, if place = location then some node else found, ended⟩ := by
  -- Where a path goes through a directory, nothing was put; it ends where nothing or a file is.
  have hends {next : Location} (hnext : tree.node? next ≠ some .directory)
      (hput : next = location → node ≠ .directory) :
      (if next = location then some node else tree.node? next) ≠ some .directory := by
    split
    · next heq => exact fun h => hput heq (Option.some.inj h)
    · exact hnext
  fun_induction follow tree origin ending segments with
  | case1 origin ending =>
    cases h
    exact absurd rfl hfound
  | case2 origin ending rest ih =>
    rw [follow, if_pos rfl]
    exact ih h
  | case3 origin ending rest hempty ih =>
    rw [follow, if_neg hempty, if_pos rfl]
    exact ih h
  | case4 origin ending rest hempty hdot ih =>
    rw [follow, if_neg hempty, if_neg hdot, if_pos rfl]
    exact ih h
  | case5 origin ending segment rest hempty hdot hdots next hnext ih =>
    have hne : next ≠ location := fun heq => hplace (heq ▸ hnext)
    rw [follow, if_neg hempty, if_neg hdot, if_neg hdots]
    simp only [node?_put hlocation]
    rw [if_neg hne, hnext]
    exact ih h
  | case6 origin ending segment hempty hdot hdots next hnext =>
    obtain ⟨rfl, rfl, rfl⟩ := Place.mk.inj (Except.ok.inj h)
    rw [follow, if_neg hempty, if_neg hdot, if_neg hdots]
    simp only [node?_put hlocation]
    split
    · next heq => exact absurd heq (hends hnext hnode)
    · rfl
  | case7 origin ending segment rest hempty hdot hdots next hrest hblank hnext =>
    obtain ⟨rfl, rfl, rfl⟩ := Place.mk.inj (Except.ok.inj h)
    rw [follow, if_neg hempty, if_neg hdot, if_neg hdots]
    simp only [node?_put hlocation]
    split
    · next heq => exact absurd heq (hends hnext hnode)
    · rw [if_neg hrest, if_pos hblank]
  | case8 origin ending segment rest hempty hdot hdots next hrest hblank hlong hnext => cases h
  | case9 origin ending segment rest hempty hdot hdots next hrest hblank hlong hnext => cases h

/-- Where a path leads to no directory, it says what stands at the place, and where it ends with a
name, that is the last name of the place. -/
theorem follow_ends {origin : Location} {ending ended : PathEnd} {segments : List String}
    {found : Option Node} (h : tree.follow origin ending segments = .ok ⟨place, found, ended⟩)
    (hfound : found ≠ some .directory) :
    found = tree.node? place ∧ (ended = .name → ∃ name, segments.getLast? = some name ∧
      place.getLast? = some name) := by
  have hlonger {segment : String} {rest : List String}
      (hrest : found = tree.node? place ∧ (ended = .name → ∃ name, rest.getLast? = some name ∧
        place.getLast? = some name)) :
      found = tree.node? place ∧ (ended = .name → ∃ name,
        (segment :: rest).getLast? = some name ∧ place.getLast? = some name) := by
    refine ⟨hrest.1, fun hended => ?_⟩
    obtain ⟨name, hlast, hname⟩ := hrest.2 hended
    exact ⟨name, by rw [List.getLast?_cons, hlast]; rfl, hname⟩
  fun_induction follow tree origin ending segments with
  | case1 origin ending =>
    cases h
    exact absurd rfl hfound
  | case2 origin ending rest ih => exact hlonger (ih h)
  | case3 origin ending rest hempty ih => exact hlonger (ih h)
  | case4 origin ending rest hempty hdot ih => exact hlonger (ih h)
  | case5 origin ending segment rest hempty hdot hdots next hnext ih => exact hlonger (ih h)
  | case6 origin ending segment hempty hdot hdots next hnext =>
    obtain ⟨rfl, rfl, -⟩ := Place.mk.inj (Except.ok.inj h)
    exact ⟨rfl, fun _ => ⟨segment, rfl, List.getLast?_concat⟩⟩
  | case7 origin ending segment rest hempty hdot hdots next hrest hblank hnext =>
    obtain ⟨rfl, rfl, rfl⟩ := Place.mk.inj (Except.ok.inj h)
    exact ⟨rfl, fun hended => nomatch hended⟩
  | case8 origin ending segment rest hempty hdot hdots next hrest hblank hlong hnext => cases h
  | case9 origin ending segment rest hempty hdot hdots next hrest hblank hlong hnext => cases h

theorem locate_ends {path : String} {found : Option Node} {ended : PathEnd}
    (h : tree.locate path = .ok ⟨place, found, ended⟩) (hfound : found ≠ some .directory) :
    found = tree.node? place ∧ (ended = .name → ∃ name, (segments path).getLast? = some name ∧
      place.getLast? = some name) := by
  unfold locate at h
  split at h
  · cases h
  · split at h
    · cases h
    · split at h
      · cases h
      · exact follow_ends h hfound

/-- A path leads to the same place after something was put where no directory stands. -/
theorem locate_put {path : String} {found : Option Node} {ended : PathEnd}
    (hlocation : location ≠ []) (hplace : tree.node? location ≠ some .directory)
    (h : tree.locate path = .ok ⟨place, found, ended⟩) (hfound : found ≠ some .directory)
    (hnode : place = location → node ≠ .directory) :
    (tree.put location node).locate path =
      .ok ⟨place, if place = location then some node else found, ended⟩ := by
  unfold locate at *
  split at h
  · cases h
  · split at h
    · cases h
    · split at h
      · cases h
      · next hbroken hempty hlong =>
        rw [if_neg hbroken, if_neg hempty, if_neg hlong, workingDirectory_put]
        exact follow_put hlocation hplace h hfound hnode

/-- A file stands where a path leads and holds the content. -/
def Holds (path : String) (content : ByteArray) (tree : FileTree) : Prop :=
  ∃ location, tree.locate path = .ok ⟨location, some (.file content), .name⟩ ∧
    (location.getLast?.getD "").utf8ByteSize ≤ nameLimit

variable {path other : String} {content old : ByteArray}

/-- What a file holds is read. -/
theorem Holds.read (h : tree.Holds path content) : tree.read path = .ok content := by
  obtain ⟨location, hlocate, hname⟩ := h
  have hnamed : (⟨location, some (.file content), .name⟩ : Place).named =
      .ok ⟨location, some (.file content), .name⟩ := if_neg (Nat.not_lt.mpr hname)
  simp [FileTree.read, find, hlocate, hnamed, bind, Except.bind, pure, Except.pure]

/-- What is put where nothing stands, or in the place of a file of another name, does not change
what a file holds. -/
theorem Holds.put (h : tree.Holds path content) (hplace : tree.node? location ≠ some .directory)
    (hother : tree.node? location = none ∨ location.getLast? ≠ (segments path).getLast?) :
    (tree.put location node).Holds path content := by
  obtain ⟨place, hlocate, hname⟩ := h
  obtain ⟨hnode, hends⟩ := locate_ends hlocate (by simp)
  obtain ⟨name, hlast, hplaced⟩ := hends rfl
  have hne : place ≠ location := by
    rintro rfl
    rcases hother with hnone | hdiffers
    · rw [hnone] at hnode
      cases hnode
    · exact hdiffers (hplaced.trans hlast.symm)
  have hlocation : location ≠ [] := fun hroot => hplace (by rw [hroot, node?, if_pos rfl])
  refine ⟨place, ?_, hname⟩
  rw [locate_put hlocation hplace hlocate (by simp) (fun heq => absurd heq hne), if_neg hne]

/-- Where a file can be written, the path ends with a name that is not too long, and nothing or a
file stands there. -/
theorem writable_eq_ok {held : Option ByteArray} (h : tree.writable path = .ok (location, held)) :
    tree.locate path = .ok ⟨location, held.map .file, .name⟩ ∧
      (location.getLast?.getD "").utf8ByteSize ≤ nameLimit := by
  unfold writable at h
  cases hlocate : tree.locate path with
  | error cause => simp [hlocate, bind, Except.bind] at h
  | ok found =>
    obtain ⟨place, node, ending⟩ := found
    simp only [hlocate, bind, Except.bind] at h
    by_cases hending : ending = .name
    · subst hending
      by_cases hname : nameLimit < (place.getLast?.getD "").utf8ByteSize
      · simp [Place.named, hname] at h
      · rcases node with _ | _ | content <;>
          simp [Place.named, hname, pure, Except.pure, throw, throwThe, MonadExceptOf.throw] at h
        · obtain ⟨rfl, rfl⟩ := h
          exact ⟨rfl, Nat.not_lt.mp hname⟩
        · obtain ⟨rfl, rfl⟩ := h
          exact ⟨rfl, Nat.not_lt.mp hname⟩
    · simp [hending, throw, throwThe, MonadExceptOf.throw] at h

/-- Where a file can be written, no directory stands. -/
theorem node?_of_writable {held : Option ByteArray}
    (h : tree.writable path = .ok (location, held)) : tree.node? location ≠ some .directory := by
  have hfound : held.map Node.file ≠ some .directory := by cases held <;> simp
  obtain ⟨hnode, -⟩ := locate_ends (writable_eq_ok h).1 hfound
  exact hnode ▸ hfound

/-- A path leads to the file that is put where it can be written. -/
theorem locate_put_of_writable {held : Option ByteArray}
    (h : tree.writable path = .ok (location, held)) :
    (tree.put location (.file content)).locate path =
      .ok ⟨location, some (.file content), .name⟩ := by
  have hplace := node?_of_writable h
  have hlocation : location ≠ [] := fun hroot => hplace (by rw [hroot, node?, if_pos rfl])
  rw [locate_put hlocation hplace (writable_eq_ok h).1 (by cases held <;> simp) (by simp),
    if_pos rfl]

/-- A file that is put where it can be written holds what was put. -/
theorem holds_put_of_writable {held : Option ByteArray}
    (h : tree.writable path = .ok (location, held)) :
    (tree.put location (.file content)).Holds path content :=
  ⟨location, locate_put_of_writable h, (writable_eq_ok h).2⟩

/-- A file that is put where it can be written can be written again. -/
theorem writable_put_of_writable {held : Option ByteArray}
    (h : tree.writable path = .ok (location, held)) :
    (tree.put location (.file content)).writable path = .ok (location, some content) := by
  have hnamed : (⟨location, some (.file content), .name⟩ : Place).named =
      .ok ⟨location, some (.file content), .name⟩ := if_neg (Nat.not_lt.mpr (writable_eq_ok h).2)
  simp [writable, locate_put_of_writable h, hnamed, bind, Except.bind, pure, Except.pure]

/-- A file of another name that is put where it can be written does not change what a file
holds. -/
theorem Holds.put_of_writable {held : Option ByteArray} (h : tree.Holds path content)
    (hother : (segments other).getLast? ≠ (segments path).getLast?)
    (hwritable : tree.writable other = .ok (location, held)) :
    (tree.put location (.file old)).Holds path content := by
  obtain ⟨-, hends⟩ := locate_ends (writable_eq_ok hwritable).1 (by cases held <;> simp)
  obtain ⟨name, hlast, hplaced⟩ := hends rfl
  exact h.put (node?_of_writable hwritable) (.inr (by rwa [hplaced, ← hlast]))

theorem write_apply (tree : FileTree) :
    write path content tree = match tree.writable path with
      | .error cause => (.error cause, tree)
      | .ok (location, _) => (.ok (), tree.put location (.file content)) := by
  simp only [write, Action.bind_apply, Action.get_apply, Action.ofExcept_apply]
  rcases tree.writable path with cause | ⟨location, held⟩ <;> rfl

/-- A file that was written holds what was written. -/
theorem holds_of_write {after : FileTree} (h : write path content tree = (.ok (), after)) :
    after.Holds path content := by
  rw [write_apply] at h
  rcases hwritable : tree.writable path with cause | ⟨location, held⟩
  · simp [hwritable] at h
  · simp only [hwritable, Action.ending_inj, true_and] at h
    subst h
    exact holds_put_of_writable hwritable

/-- Writing a file of another name does not change what a file holds. -/
theorem write_preserves_holds (hother : (segments other).getLast? ≠ (segments path).getLast?)
    (given : ByteArray) : (write other given).Preserves (Holds path content) := by
  intro tree htree
  rw [write_apply]
  rcases hwritable : tree.writable other with cause | ⟨location, held⟩
  · exact htree
  · exact htree.put_of_writable hother hwritable

theorem Holds.put_directory (h : tree.Holds path content) (hnone : tree.node? location = none) :
    (tree.put location .directory).Holds path content :=
  h.put (by simp [hnone]) (.inl hnone)

/-- A directory is made where nothing stands, or nothing is done. -/
theorem makeDirectory_cases (path : String) (tree : FileTree) :
    (∃ cause, makeDirectory path tree = (.error cause, tree)) ∨
      ∃ place ended, tree.locate path = .ok ⟨place, none, ended⟩ ∧ tree.node? place = none ∧
        (place.getLast?.getD "").utf8ByteSize ≤ nameLimit ∧
        makeDirectory path tree = (.ok (), tree.put place .directory) := by
  simp only [makeDirectory, Action.bind_apply, Action.get_apply, Action.ofExcept_apply]
  rcases hlocate : tree.locate path with cause | ⟨place, node, ended⟩
  · exact .inl ⟨cause, rfl⟩
  · by_cases hlong : nameLimit < (place.getLast?.getD "").utf8ByteSize
    · exact .inl ⟨.nameTooLong, by simp only [Except.bind, Place.named, hlong, if_true]⟩
    · simp only [Except.bind, Place.named, hlong, if_false]
      cases node with
      | some node => exact .inl ⟨.alreadyExists, rfl⟩
      | none =>
        obtain ⟨hnone, -⟩ := locate_ends hlocate (by simp)
        exact .inr ⟨place, ended, rfl, hnone.symm, Nat.not_lt.mp hlong, rfl⟩

section Making

variable {good : FileTree → Prop} (hput : ∀ tree location, good tree → tree.node? location = none →
  good (tree.put location .directory))
include hput

/-- Directories are made only where nothing stands. -/
theorem makeDirectory_preserves : (makeDirectory path).Preserves good := by
  intro tree htree
  rcases makeDirectory_cases path tree with ⟨cause, hfails⟩ | ⟨place, _, -, hnone, -, hmakes⟩
  · rw [hfails]
    exact htree
  · rw [hmakes]
    exact hput tree place htree hnone

theorem makeDirectoryOr_preserves {onMissing : Action FileTree IoError Unit}
    (h : onMissing.Preserves good) : (makeDirectoryOr path onMissing).Preserves good := by
  intro tree htree
  unfold makeDirectoryOr
  rcases hmake : makeDirectory path tree with ⟨cause | ⟨⟩, after⟩
  · cases cause with
    | notFound => exact h tree htree
    | _ => exact htree
  · exact (makeDirectory_preserves hput).of_run hmake htree

theorem makeDirectoriesUpTo_preserves (fuel : Nat) :
    (makeDirectoriesUpTo fuel path).Preserves good := by
  induction fuel generalizing path with
  | zero => exact .throw _
  | succ fuel ih =>
    rw [makeDirectoriesUpTo]
    split
    · exact .pure _
    · refine makeDirectoryOr_preserves hput ?_
      cases Path.parent? path with
      | none => exact .throw _
      | some parent => exact .bind ih fun _ => makeDirectoryOr_preserves hput (.throw _)

theorem makeParent_preserves : (makeParent path).Preserves good := by
  unfold makeParent
  cases Path.parent? path with
  | none => exact .pure ()
  | some parent => exact makeDirectoriesUpTo_preserves hput _

end Making

end FileTree
end Files
end ContainerCert
