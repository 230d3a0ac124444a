import ContainerCert.Proofs.IncludePaths

/-!
# Names in a directory

A path leads to a directory exactly when it leads through directories only, and so it still does
when anything is put where no directory stands. What such a path is joined with is a name in that
directory, and the parent of the joined path is there already. A directory that was made is where
its path leads.
-/

namespace ContainerCert.Files

open ContainerCert.Files.Path
open Text (splitAt joinWith)

/-- A name that stands for itself in a path. -/
def Path.IsName (name : String) : Prop :=
  '/' ∉ name.toList ∧ name ∉ ["", ".", ".."]

instance (name : String) : Decidable (IsName name) :=
  inferInstanceAs (Decidable (_ ∧ _))

/-- A path that can be followed: it is not empty, not too long, and without a NUL character. -/
structure Path.IsUsable (path : String) : Prop where
  unbroken : '\x00' ∉ path.toList
  nonempty : path ≠ ""
  short : path.utf8ByteSize ≤ pathLimit

/-- What a usable path starts with is usable. -/
theorem Path.IsUsable.of_prefix {base path : String} (h : IsUsable path)
    (hstart : base.toList <+: path.toList) (hne : base ≠ "") : IsUsable base := by
  obtain ⟨rest, hrest⟩ := hstart
  have hpath : path = base ++ String.ofList rest := by
    rw [← String.toList_inj, String.toList_append, String.toList_ofList, hrest]
  refine ⟨fun hmem => h.unbroken (hrest ▸ List.mem_append_left rest hmem), hne, ?_⟩
  have hshort := h.short
  rw [hpath, String.utf8ByteSize_append] at hshort
  omega

theorem Path.join_ne_empty {base : String} (hbase : base ≠ "") (path : String) :
    join base path ≠ "" := by
  unfold join
  split
  · next habsolute =>
    rintro rfl
    cases habsolute
  · split
    · next hnone =>
      exact absurd (String.toList_eq_nil_iff.mp (List.getLast?_eq_none_iff.mp hnone)) hbase
    · exact fun h => hbase (String.append_eq_empty_iff.mp h).1
    · exact fun h => hbase (String.append_eq_empty_iff.mp (String.append_eq_empty_iff.mp h).1).1

theorem Path.isIdle_of_isName {name : String} (hname : IsName name) :
    isIdle name.toList = false := by
  have hne : name.toList ≠ [] ∧ name.toList ≠ ['.'] := by
    refine ⟨fun heq => hname.2 ?_, fun heq => hname.2 ?_⟩
    · simp [String.toList_eq_nil_iff.mp heq]
    · simp [← String.toList_inj, heq]
  simpa [isIdle] using hne

namespace FileTree

variable {tree after : FileTree} {origin location : Location} {path directory name : String}

theorem locate_eq_ok_iff {place : Place} : tree.locate path = .ok place ↔
    IsUsable path ∧ tree.follow (tree.originOf path) .dots (segments path) = .ok place := by
  unfold locate
  constructor
  · intro h
    split at h
    · cases h
    · next hbroken =>
      split at h
      · cases h
      · next hempty =>
        split at h
        · cases h
        · next hlong => exact ⟨⟨by simpa using hbroken, by simpa using hempty, by omega⟩, h⟩
  · rintro ⟨⟨hbroken, hempty, hshort⟩, h⟩
    rw [if_neg (by simpa using hbroken), if_neg (by simpa using hempty), if_neg (by omega)]
    exact h

theorem find_eq_directory_iff : tree.find path = .ok (location, .directory) ↔
    (∃ ended, tree.locate path = .ok ⟨location, some .directory, ended⟩) ∧
      (location.getLast?.getD "").utf8ByteSize ≤ nameLimit := by
  rw [find_eq, Action.step_bind_eq_ok]
  constructor
  · rintro ⟨⟨place, node, ended⟩, hlocate, hsettled⟩
    unfold Place.settled Place.named at hsettled
    split at hsettled
    · cases hsettled
    · next hshort =>
      rcases node with _ | _ | content
      · cases hsettled
      · cases hsettled
        exact ⟨⟨ended, hlocate⟩, Nat.not_lt.mp hshort⟩
      · cases ended <;> cases hsettled
  · rintro ⟨⟨ended, hlocate⟩, hshort⟩
    refine ⟨_, hlocate, ?_⟩
    unfold Place.settled Place.named
    rw [if_neg (Nat.not_lt.mpr hshort)]
    rfl

/-- Segments that lead to a directory lead through directories only. -/
theorem descend_of_follow {ending ended : PathEnd} {segments : List String}
    (h : tree.follow origin ending segments = .ok ⟨location, some .directory, ended⟩) :
    tree.descend origin segments = some location := by
  fun_induction follow tree origin ending segments with
  | case1 origin ending =>
    cases h
    rfl
  | case2 origin ending rest ih => exact ih h
  | case3 origin ending rest hempty ih => exact ih h
  | case4 origin ending rest hempty hdot ih => exact ih h
  | case5 origin ending segment rest hempty hdot hdots next hnext ih =>
    rw [descend, if_neg (by simp [hempty, hdot]), if_neg hdots, if_pos hnext]
    exact ih h
  | case6 origin ending segment hempty hdot hdots next hnext =>
    exact absurd (Place.mk.inj (Except.ok.inj h)).2.1 hnext
  | case7 origin ending segment rest hempty hdot hdots next hrest hblank hnext =>
    exact absurd (Place.mk.inj (Except.ok.inj h)).2.1 hnext
  | case8 origin ending segment rest hempty hdot hdots next hrest hblank hlong hnext => cases h
  | case9 origin ending segment rest hempty hdot hdots next hrest hblank hlong hnext => cases h

/-- A path leads to a directory exactly when it can be followed through directories only. -/
theorem find_directory_iff_descend : tree.find path = .ok (location, .directory) ↔
    IsUsable path ∧ tree.descend (tree.originOf path) (segments path) = some location ∧
      (location.getLast?.getD "").utf8ByteSize ≤ nameLimit := by
  rw [find_eq_directory_iff]
  constructor
  · rintro ⟨⟨ended, hlocate⟩, hshort⟩
    obtain ⟨husable, hfollow⟩ := locate_eq_ok_iff.mp hlocate
    exact ⟨husable, descend_of_follow hfollow, hshort⟩
  · rintro ⟨husable, hdescend, hshort⟩
    obtain ⟨ended, hfollow⟩ := exists_follow_append hdescend .dots []
    rw [List.append_nil] at hfollow
    exact ⟨⟨ended, locate_eq_ok_iff.mpr ⟨husable, hfollow⟩⟩, hshort⟩

/-- What is put where no directory stands leaves open all ways through directories. -/
theorem descend_put {place : Location} {node : Node} {segments : List String}
    (hplace : tree.node? place ≠ some .directory)
    (h : tree.descend origin segments = some location) :
    (tree.put place node).descend origin segments = some location := by
  have hroot : place ≠ [] := fun hroot => hplace (by rw [hroot, node?, if_pos rfl])
  fun_induction descend tree origin segments with
  | case1 origin => exact h
  | case2 origin segment rest hidle ih =>
    rw [descend, if_pos hidle]
    exact ih h
  | case3 origin rest hidle ih =>
    rw [descend, if_neg hidle, if_pos rfl]
    exact ih h
  | case4 origin segment rest hidle hdots hnext ih =>
    have hne : origin ++ [segment] ≠ place := fun heq => hplace (heq ▸ hnext)
    rw [descend, if_neg hidle, if_neg hdots, node?_put hroot, if_neg hne, if_pos hnext]
    exact ih h
  | case5 origin segment rest hidle hdots hnext => cases h

theorem find_directory_put {place : Location} {node : Node}
    (hplace : tree.node? place ≠ some .directory)
    (h : tree.find path = .ok (location, .directory)) :
    (tree.put place node).find path = .ok (location, .directory) := by
  obtain ⟨husable, hdescend, hshort⟩ := find_directory_iff_descend.mp h
  refine find_directory_iff_descend.mpr ⟨husable, ?_, hshort⟩
  rw [originOf, workingDirectory_put]
  exact descend_put hplace hdescend

/-- The segments of a name in a directory are those of the directory, less an empty one that a slash
leaves at its end, and then the name. -/
theorem exists_segments_join (directory : String) (hname : IsName name) :
    ∃ kept idles, splitAt '/' directory.toList = kept ++ idles ∧ (∀ part ∈ idles, part = []) ∧
      splitAt '/' (join directory name).toList = kept ++ [name.toList] := by
  have hrelative := isAbsolute_eq_false hname.1
  have halone : splitAt '/' name.toList = [name.toList] := Text.splitAt_of_not_mem hname.1
  rw [toList_join hrelative]
  split
  · next hnone => exact ⟨[], [[]], by rw [hnone]; rfl, by simp, halone⟩
  · split
    · next hslash =>
      obtain ⟨front, hfront⟩ := List.getLast?_eq_some_iff.mp hslash
      refine ⟨splitAt '/' front, [[]], ?_, by simp, ?_⟩
      · rw [hfront, Text.splitAt_append]
        rfl
      · rw [hfront, List.append_assoc, List.singleton_append, Text.splitAt_append, halone]
    · exact ⟨splitAt '/' directory.toList, [], by simp, by simp, by
        rw [Text.splitAt_append, halone]⟩

theorem descend_kept {kept idles : List (List Char)} {parts : List (List Char)}
    (hparts : parts = kept ++ idles) (hidles : ∀ part ∈ idles, isIdle part = true) :
    tree.descend origin (parts.map String.ofList) =
      tree.descend origin (kept.map String.ofList) := by
  rw [hparts, List.map_append]
  refine descend_append_of_idle fun segment hmem => ?_
  obtain ⟨part, hpart, rfl⟩ := List.mem_map.mp hmem
  have hidle : part = [] ∨ part = ['.'] := by simpa [isIdle] using hidles part hpart
  rcases hidle with rfl | rfl
  · exact .inl rfl
  · exact .inr rfl

/-- A name in a directory leads to the place of that name in it. -/
theorem locate_join {place : Place} (hdirectory : tree.find directory = .ok (location, .directory))
    (hname : IsName name) (h : tree.locate (join directory name) = .ok place) :
    place = ⟨location ++ [name], tree.node? (location ++ [name]), .name⟩ := by
  obtain ⟨-, hdescend, -⟩ := find_directory_iff_descend.mp hdirectory
  obtain ⟨kept, idles, hkept, hidles, hjoined⟩ := exists_segments_join directory hname
  have horigin : tree.originOf (join directory name) = tree.originOf directory := by
    rw [originOf, originOf, isAbsolute_join (isAbsolute_eq_false hname.1)]
  rw [segments, descend_kept hkept fun part hpart => by rw [hidles part hpart]; rfl] at hdescend
  obtain ⟨ended, hfollow⟩ := exists_follow_append hdescend .dots [name]
  obtain ⟨-, hplace⟩ := locate_eq_ok_iff.mp h
  rw [horigin, segments, hjoined, List.map_append, List.map_singleton, String.ofList_toList,
    hfollow] at hplace
  obtain ⟨hempty, hdot, hdots⟩ : name ≠ "" ∧ name ≠ "." ∧ name ≠ ".." := by simpa using hname.2
  rw [follow, if_neg hempty, if_neg hdot, if_neg hdots] at hplace
  simp only at hplace
  split at hplace
  · next hnode =>
    rw [hnode]
    exact (Except.ok.inj hplace).symm
  · exact (Except.ok.inj hplace).symm

theorem makeDirectoryOr_of_find {onMissing : Action FileTree IoError Unit}
    (h : tree.find path = .ok (location, .directory)) :
    makeDirectoryOr path onMissing tree = (.ok (), tree) := by
  obtain ⟨⟨ended, hlocate⟩, hshort⟩ := find_eq_directory_iff.mp h
  have hnamed : (⟨location, some .directory, ended⟩ : Place).named =
      .ok ⟨location, some .directory, ended⟩ := if_neg (Nat.not_lt.mpr hshort)
  have hmake : makeDirectory path tree = (.error .alreadyExists, tree) := by
    simp only [makeDirectory, Action.bind_apply, Action.get_apply, Action.ofExcept_apply, hlocate,
      Except.bind, hnamed, Action.throw_apply]
  simp only [makeDirectoryOr, hmake, isDirectory, h, if_true]

/-- Making a directory that is there does nothing. -/
theorem makeDirectories_of_find (h : tree.find path = .ok (location, .directory)) :
    makeDirectories path tree = (.ok (), tree) := by
  have hne : path.isEmpty = false := by
    simpa using (find_directory_iff_descend.mp h).1.nonempty
  rw [makeDirectories, makeDirectoriesUpTo, hne, if_neg Bool.false_ne_true]
  exact makeDirectoryOr_of_find h

/-- The parent of a name in a directory is nothing or the start of the path of the directory, and
what it leaves out of it is idle. -/
theorem exists_parent?_join (directory : String) (hname : IsName name) :
    ∃ base, parent? (join directory name) = some base ∧ (base ≠ "" →
      base.toList <+: directory.toList ∧ isAbsolute base = isAbsolute directory ∧
      ∃ parts idles others, splitAt '/' base.toList = parts ++ idles ∧
        splitAt '/' directory.toList = parts ++ others ∧
        ∀ part ∈ idles ++ others, isIdle part = true) := by
  obtain ⟨kept, slash, hkept, hslash, hjoined⟩ := exists_segments_join directory hname
  obtain ⟨base, parts, hparent, hspells, ⟨others, rfl, hothers⟩, hstarts⟩ :=
    exists_parent? hjoined (isIdle_of_isName hname)
  rw [isAbsolute_join (isAbsolute_eq_false hname.1)] at hstarts
  rw [List.append_assoc] at hkept
  have hidle : ∀ part ∈ others ++ slash, isIdle part = true := by
    intro part hpart
    rcases List.mem_append.mp hpart with hpart | hpart
    · exact hothers part hpart
    · rw [hslash part hpart]
      rfl
  refine ⟨base, hparent, fun hne => ?_⟩
  obtain ⟨hnone, -⟩ | ⟨hroot, rfl⟩ | ⟨hjoin, hsplit, -, -⟩ := hspells
  · exact absurd (String.toList_eq_nil_iff.mp hnone) hne
  · have habsolute : directory.toList.head? = some '/' := by
      simpa [isAbsolute, hroot] using hstarts.symm
    obtain ⟨rest, hrest⟩ := List.head?_eq_some_iff.mp habsolute
    refine ⟨?_, hstarts, [[]], [[]], others ++ slash, by rw [hroot]; rfl, hkept, ?_⟩
    · rw [hroot, hrest]
      exact ⟨rest, rfl⟩
    · simpa [isIdle] using hidle
  · refine ⟨?_, hstarts, parts, [], others ++ slash, by rw [hsplit, List.append_nil], hkept, hidle⟩
    rw [hjoin, ← Text.joinWith_splitAt '/' directory.toList, hkept]
    by_cases hlast : others ++ slash = []
    · simp only [hlast, List.append_nil, List.prefix_rfl]
    · rw [Text.joinWith_append '/' (hsplit ▸ Text.splitAt_ne_nil '/' _) hlast]
      exact ⟨_, rfl⟩

/-- The directory of a name in a directory is there already. -/
theorem makeParent_join (hdirectory : tree.find directory = .ok (location, .directory))
    (hname : IsName name) : makeParent (join directory name) tree = (.ok (), tree) := by
  obtain ⟨husable, hdescend, hshort⟩ := find_directory_iff_descend.mp hdirectory
  obtain ⟨base, hparent, hbase⟩ := exists_parent?_join directory hname
  rw [makeParent, hparent]
  simp only
  by_cases hempty : base = ""
  · subst hempty
    rfl
  · obtain ⟨hstart, hstarts, parts, idles, others, hparts, hothers, hidle⟩ := hbase hempty
    rw [List.forall_mem_append] at hidle
    rw [segments, descend_kept hothers hidle.2] at hdescend
    refine makeDirectories_of_find (find_directory_iff_descend.mpr
      ⟨husable.of_prefix hstart hempty, ?_, hshort⟩)
    rw [originOf, hstarts, segments, descend_kept hparts hidle.1]
    exact hdescend

/-- A directory that is put where a path leads to nothing is where the path leads then. -/
theorem descend_put_directory {place : Location} {ending ended : PathEnd} {segments : List String}
    (hnode : tree.node? place = none)
    (h : tree.follow origin ending segments = .ok ⟨place, none, ended⟩) :
    (tree.put place .directory).descend origin segments = some place := by
  have hroot : place ≠ [] := fun hroot => by simp [hroot, node?] at hnode
  fun_induction follow tree origin ending segments with
  | case1 origin ending => cases h
  | case2 origin ending rest ih =>
    rw [descend, if_pos (.inl rfl)]
    exact ih h
  | case3 origin ending rest hempty ih =>
    rw [descend, if_pos (.inr rfl)]
    exact ih h
  | case4 origin ending rest hempty hdot ih =>
    rw [descend, if_neg (by simp), if_pos rfl]
    exact ih h
  | case5 origin ending segment rest hempty hdot hdots next hnext ih =>
    have hne : origin ++ [segment] ≠ place := fun heq => by
      rw [show next = place from heq, hnode] at hnext
      cases hnext
    rw [descend, if_neg (by simp [hempty, hdot]), if_neg hdots, node?_put hroot, if_neg hne,
      if_pos hnext]
    exact ih h
  | case6 origin ending segment hempty hdot hdots next hnext =>
    obtain ⟨rfl, -, -⟩ := Place.mk.inj (Except.ok.inj h)
    rw [descend, if_neg (by simp [hempty, hdot]), if_neg hdots, node?_put hroot, if_pos rfl,
      if_pos rfl, descend]
  | case7 origin ending segment rest hempty hdot hdots next hrest hblank hnext =>
    obtain ⟨rfl, -, -⟩ := Place.mk.inj (Except.ok.inj h)
    rw [descend, if_neg (by simp [hempty, hdot]), if_neg hdots, node?_put hroot, if_pos rfl,
      if_pos rfl]
    have hidle (other : String) (hother : other ∈ rest) : other = "" ∨ other = "." :=
      .inl (by simpa using List.all_eq_true.mp hblank other hother)
    exact @descend_append_of_idle _ _ [] rest hidle
  | case8 origin ending segment rest hempty hdot hdots next hrest hblank hlong hnext => cases h
  | case9 origin ending segment rest hempty hdot hdots next hrest hblank hlong hnext => cases h

theorem find_of_makeDirectory (h : makeDirectory path tree = (.ok (), after)) :
    ∃ location, after.find path = .ok (location, .directory) := by
  rcases makeDirectory_cases path tree with ⟨cause, hfails⟩ |
    ⟨place, ended, hlocate, hnone, hshort, hmakes⟩
  · rw [hfails] at h
    cases h
  · rw [hmakes] at h
    obtain ⟨-, rfl⟩ := Action.ending_inj.mp h
    obtain ⟨husable, hfollow⟩ := locate_eq_ok_iff.mp hlocate
    refine ⟨place, find_directory_iff_descend.mpr ⟨husable, ?_, hshort⟩⟩
    rw [originOf, workingDirectory_put]
    exact descend_put_directory hnone hfollow

theorem find_of_isDirectory (h : tree.isDirectory path = true) :
    ∃ location, tree.find path = .ok (location, .directory) := by
  unfold isDirectory at h
  rcases hfind : tree.find path with cause | ⟨location, _ | content⟩
  · simp [hfind] at h
  · exact ⟨location, rfl⟩
  · simp [hfind] at h

/-- Where a directory was made unless it was there, it is there. -/
theorem find_of_makeDirectoryOr {onMissing : Action FileTree IoError Unit}
    (hmissing : ∀ after, onMissing tree = (.ok (), after) →
      ∃ location, after.find path = .ok (location, .directory))
    (h : makeDirectoryOr path onMissing tree = (.ok (), after)) :
    ∃ location, after.find path = .ok (location, .directory) := by
  unfold makeDirectoryOr at h
  split at h
  · next made hmake =>
    cases h
    exact find_of_makeDirectory hmake
  · exact hmissing after h
  · obtain ⟨hthere, rfl⟩ := Action.ending_inj.mp h
    refine find_of_isDirectory ?_
    by_contra hnot
    rw [if_neg hnot] at hthere
    cases hthere

/-- A directory that was made is where its path leads. -/
theorem find_of_makeDirectories (hne : path ≠ "")
    (h : makeDirectories path tree = (.ok (), after)) :
    ∃ location, after.find path = .ok (location, .directory) := by
  rw [makeDirectories, makeDirectoriesUpTo, if_neg (by simpa using hne)] at h
  refine find_of_makeDirectoryOr (fun final hfinal => ?_) h
  -- Once those above it are made, the directory itself is.
  cases hparent : parent? path with
  | none => simp [hparent] at hfinal
  | some parent =>
    rw [hparent] at hfinal
    obtain ⟨⟨⟩, between, -, hlast⟩ := Action.bind_eq_ok.mp hfinal
    exact find_of_makeDirectoryOr (fun _ hthrow => by simp at hthrow) hlast

end FileTree
end ContainerCert.Files
