import ContainerCert.Artifacts
import ContainerCert.Proofs.DirectoryPaths
import ContainerCert.Proofs.MachineFiles

/-!
# Files of an artifacts directory

Making a directory only adds directories where nothing stood. A file that is written under a name of
a directory is put at that name of the directory, whole, or nothing is done. So a list of files that
is written under names of a directory leaves the tree with the first of them put there, all of them
or those before the one that fails, and where the names differ each file holds what was written.
-/

namespace ContainerCert

namespace Files.FileTree

open Files.Path (IsName)

variable {tree before : FileTree} {location : Location} {path directory name : String}
  {content : ByteArray}

/-- The second tree is the first one with more directories, where nothing stood. -/
structure AddsDirectories (before after : FileTree) : Prop where
  workingDirectory : after.workingDirectory = before.workingDirectory
  places : ∀ place, after.node? place = before.node? place ∨
    before.node? place = none ∧ after.node? place = some .directory

theorem AddsDirectories.refl (tree : FileTree) : AddsDirectories tree tree :=
  ⟨rfl, fun _ => .inl rfl⟩

theorem AddsDirectories.put (h : AddsDirectories before tree) (hnone : tree.node? location = none) :
    AddsDirectories before (tree.put location .directory) := by
  have hlocation : location ≠ [] := fun hroot => by simp [hroot, node?] at hnone
  refine ⟨workingDirectory_put.trans h.workingDirectory, fun place => ?_⟩
  rw [node?_put hlocation]
  split
  · next hplace =>
    subst hplace
    rcases h.places place with hsame | ⟨-, hadded⟩
    · exact .inr ⟨hsame.symm.trans hnone, rfl⟩
    · rw [hnone] at hadded
      cases hadded
  · exact h.places place

/-- The tree once files were put into a directory, one after the other. -/
def withFiles (tree : FileTree) (location : Location) (files : List (String × ByteArray)) :
    FileTree :=
  files.foldl (fun tree file => tree.put (location ++ [file.1]) (.file file.2)) tree

theorem withFiles_append (tree : FileTree) (location : Location)
    (first second : List (String × ByteArray)) :
    tree.withFiles location (first ++ second) =
      (tree.withFiles location first).withFiles location second := by
  rw [withFiles, withFiles, withFiles, List.foldl_append]

/-- What is put into a directory stands there under its name. -/
theorem node?_withFiles (tree : FileTree) (location place : Location)
    (files : List (String × ByteArray)) :
    (tree.withFiles location files).node? place = tree.node? place ∨
      ∃ name ∈ files.map Prod.fst, place = location ++ [name] := by
  induction files generalizing tree with
  | nil => exact .inl rfl
  | cons file files ih =>
    rcases ih (tree.put (location ++ [file.1]) (.file file.2)) with hsame | ⟨name, hmem, hplace⟩
    · by_cases hplace : place = location ++ [file.1]
      · exact .inr ⟨file.1, List.mem_cons_self, hplace⟩
      · refine .inl (hsame.trans ?_)
        rw [node?_put (List.concat_ne_nil _ _), if_neg hplace]
    · exact .inr ⟨name, List.mem_cons_of_mem _ hmem, hplace⟩

/-- A name of a directory where a file can be written is a place in it. -/
theorem eq_of_writable_join {held : Option ByteArray} {place : Location}
    (hdirectory : tree.find directory = .ok (location, .directory)) (hname : IsName name)
    (h : tree.writable (Path.join directory name) = .ok (place, held)) :
    place = location ++ [name] :=
  congrArg Place.location (locate_join hdirectory hname (writable_eq_ok h).1)

theorem create_apply (tree : FileTree) :
    create path tree = match tree.writable path with
      | .error cause => (.error cause, tree)
      | .ok (location, _) => (.ok (), tree.put location (.file .empty)) := by
  simp only [create, Action.bind_apply, Action.get_apply, Action.ofExcept_apply]
  rcases tree.writable path with cause | ⟨location, held⟩ <;> rfl

/-- A directory is still there when files were put into one. -/
theorem find_directory_withFiles {files : List (String × ByteArray)} {place : Location}
    (hfree : ∀ file ∈ files, tree.node? (place ++ [file.1]) ≠ some .directory)
    (h : tree.find directory = .ok (location, .directory)) :
    (tree.withFiles place files).find directory = .ok (location, .directory) := by
  induction files generalizing tree with
  | nil => exact h
  | cons file files ih =>
    rw [List.forall_mem_cons] at hfree
    refine ih (fun other hmem => ?_) (find_directory_put hfree.1 h)
    rw [node?_put (List.concat_ne_nil _ _)]
    split
    · simp
    · exact hfree.2 other hmem

end Files.FileTree

namespace Artifacts

open Files
open Files.Path (IsName)

variable {tree after : FileTree} {location : Location} {directory name path : String}

theorem makeDirectory_apply (directory : String) (tree : FileTree) :
    makeDirectory directory tree = match FileTree.makeDirectories
        (Path.join (pathOf tree.workingDirectory) directory) tree with
      | (.error cause, after) => (.error cause, after)
      | (.ok (), after) => (.ok (Path.join (pathOf tree.workingDirectory) directory), after) := by
  simp only [makeDirectory, Action.bind_apply, Action.get_apply]
  rcases FileTree.makeDirectories _ tree with ⟨_ | _, _⟩ <;> rfl

/-- Making an artifacts directory adds directories, also where it fails. -/
theorem makeDirectory_preserves (directory : String) (before : FileTree) :
    (makeDirectory directory).Preserves (FileTree.AddsDirectories before) :=
  .bind (fun _ h => h) fun _ =>
    .bind (FileTree.makeDirectoriesUpTo_preserves (fun _ _ => FileTree.AddsDirectories.put) _)
      fun _ => .pure _

/-- An artifacts directory that was made is where its path leads. -/
theorem find_of_makeDirectory (h : makeDirectory directory tree = (.ok path, after)) :
    ∃ location, after.find path = .ok (location, .directory) := by
  have hbase : pathOf tree.workingDirectory ≠ "" := by
    simp [pathOf]
  rw [makeDirectory_apply] at h
  split at h
  · cases h
  · next made hmake =>
    cases h
    exact FileTree.find_of_makeDirectories (Path.join_ne_empty hbase directory) hmake

/-- A file is written under a name of a directory, or nothing is done. -/
theorem writeFile_cases (hdirectory : tree.find directory = .ok (location, .directory))
    (hname : IsName name) (content : ByteArray) :
    (∃ cause, writeFile directory name content tree = (.error cause, tree)) ∨
      tree.node? (location ++ [name]) ≠ some .directory ∧
      (tree.withFiles location [(name, content)]).Holds (Path.join directory name) content ∧
      writeFile directory name content tree =
        (.ok (Path.join directory name), tree.withFiles location [(name, content)]) := by
  rw [writeFile, Action.bind_of_ok (FileTree.makeParent_join hdirectory hname), Action.bind_apply,
    FileTree.write_apply]
  rcases hwritable : tree.writable (Path.join directory name) with cause | ⟨place, held⟩
  · exact .inl ⟨cause, rfl⟩
  · obtain rfl := FileTree.eq_of_writable_join hdirectory hname hwritable
    exact .inr ⟨FileTree.node?_of_writable hwritable, FileTree.holds_put_of_writable hwritable, rfl⟩

end Artifacts

namespace Run

open Files
open Files.Path (IsName)

variable {machine saved : Machine} {location : Location} {directory name : String}
  {content : ByteArray} {files : List (String × ByteArray)}

/-- A document is written under a name of a directory, whole, or nothing is done. -/
theorem persist_cases (hdirectory : machine.files.find directory = .ok (location, .directory))
    (hname : IsName name) (content : ByteArray) :
    (∃ cause, persist machineWriter (Path.join directory name) content machine =
        (.error (.persistence (Path.join directory name) cause), machine)) ∨
      machine.files.node? (location ++ [name]) ≠ some .directory ∧
      persist machineWriter (Path.join directory name) content machine =
        (.ok (), { machine with files := machine.files.withFiles location [(name, content)] }) := by
  have hopen : fileWriter.openFile (Path.join directory name) machine.files =
      FileTree.create (Path.join directory name) machine.files :=
    Action.bind_of_ok (FileTree.makeParent_join hdirectory hname) _
  rcases hwritable : machine.files.writable (Path.join directory name) with cause | ⟨place, held⟩
  · left
    refine ⟨cause, ?_⟩
    simp [persist, machineWriter, Action.bind_apply, Machine.onFiles, hopen, FileTree.create_apply,
      hwritable]
  · obtain rfl := FileTree.eq_of_writable_join hdirectory hname hwritable
    let emptied := machine.files.put (location ++ [name]) (.file .empty)
    have hopened : machineWriter.openFile (Path.join directory name) machine =
        (.ok (), { machine with files := emptied }) := by
      simp [machineWriter, Machine.onFiles, hopen, FileTree.create_apply, hwritable, emptied]
    have hwritten : machineWriter.write (Path.join directory name) content
        { machine with files := emptied } =
          (.ok (),
            { machine with files := machine.files.withFiles location [(name, content)] }) := by
      simp [machineWriter, Machine.onFiles, fileWriter, FileTree.write_apply, emptied,
        FileTree.writable_put_of_writable hwritable, FileTree.put_put, FileTree.withFiles]
    right
    refine ⟨FileTree.node?_of_writable hwritable, ?_⟩
    rw [persist, Action.mapError_apply, Action.bind_of_ok hopened, Action.bind_of_ok hwritten]
    rfl

/-- Write documents under names of a directory, in order. -/
def persistAll (directory : String) (files : List (String × ByteArray)) :
    Action Machine RunError Unit :=
  files.forM fun file => persist machineWriter (Path.join directory file.1) file.2

theorem persistAll_cons (directory : String) (file : String × ByteArray)
    (files : List (String × ByteArray)) :
    persistAll directory (file :: files) =
      persist machineWriter (Path.join directory file.1) file.2 >>= fun _ =>
        persistAll directory files := rfl

/-- All documents are written, or those before the one that fails. -/
theorem persistAll_cases (hdirectory : machine.files.find directory = .ok (location, .directory))
    (hnames : ∀ file ∈ files, IsName file.1) :
    persistAll directory files machine =
        (.ok (), { machine with files := machine.files.withFiles location files }) ∨
      ∃ written file left cause, files = written ++ file :: left ∧
        persistAll directory files machine =
          (.error (.persistence (Path.join directory file.1) cause),
            { machine with files := machine.files.withFiles location written }) := by
  induction files generalizing machine with
  | nil => exact .inl rfl
  | cons file files ih =>
    rw [List.forall_mem_cons] at hnames
    rw [persistAll_cons]
    rcases persist_cases hdirectory hnames.1 file.2 with ⟨cause, hfails⟩ | ⟨hfree, hpersists⟩
    · rw [Action.bind_of_error hfails]
      exact .inr ⟨[], file, files, cause, rfl, rfl⟩
    · rw [Action.bind_of_ok hpersists]
      let next : Machine := { machine with files := machine.files.withFiles location [file] }
      have hstands : next.files.find directory = .ok (location, .directory) :=
        FileTree.find_directory_withFiles (by simpa using hfree) hdirectory
      rcases ih hstands hnames.2 with hdone | ⟨written, other, left, cause, rfl, hfails⟩
      · refine .inl ?_
        rw [hdone, ← FileTree.withFiles_append]
        rfl
      · refine .inr ⟨file :: written, other, left, cause, rfl, ?_⟩
        rw [hfails, ← FileTree.withFiles_append]
        rfl

/-- Writing documents under other names does not change what a file holds. -/
theorem persistAll_preserves_holds (hname : '/' ∉ name.toList)
    (hothers : ∀ file ∈ files, '/' ∉ file.1.toList ∧ file.1 ≠ name) :
    (persistAll directory files).Preserves (Machine.Holds (Path.join directory name) content) := by
  induction files with
  | nil => exact .pure ()
  | cons file files ih =>
    rw [List.forall_mem_cons] at hothers
    rw [persistAll_cons]
    refine .bind (persist_preserves_holds ?_ _) fun _ => ih hothers.2
    rw [FileTree.segments_join_getLast? directory hothers.1.1,
      FileTree.segments_join_getLast? directory hname]
    exact fun hsame => hothers.1.2 (Option.some.inj hsame)

/-- Where documents were written under different names, each of them is held. -/
theorem holds_of_persistAll (hnames : ∀ file ∈ files, IsName file.1)
    (hdistinct : (files.map Prod.fst).Nodup)
    (h : persistAll directory files machine = (.ok (), saved)) :
    ∀ file ∈ files, saved.Holds (Path.join directory file.1) file.2 := by
  induction files generalizing machine with
  | nil => simp
  | cons file files ih =>
    rw [List.forall_mem_cons] at hnames
    rw [List.map_cons, List.nodup_cons] at hdistinct
    rw [persistAll_cons] at h
    obtain ⟨⟨⟩, between, hfirst, hrest⟩ := Action.bind_eq_ok.mp h
    refine List.forall_mem_cons.mpr ⟨?_, ih hnames.2 hdistinct.2 hrest⟩
    refine (persistAll_preserves_holds hnames.1.1 fun other hmem => ?_).of_run hrest
      (holds_of_persist hfirst)
    exact ⟨(hnames.2 other hmem).1, fun hsame =>
      hdistinct.1 (hsame ▸ List.mem_map_of_mem hmem)⟩

end Run
end ContainerCert
