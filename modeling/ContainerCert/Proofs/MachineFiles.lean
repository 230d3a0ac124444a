import ContainerCert.Proofs.FileTrees
import ContainerCert.Run.Basic

/-!
# What writing documents does to a machine

Documents are written into the files of a machine, and the rest of it is left alone. A document
that was written stands in its file, and stays there while documents of other names are written.
-/

namespace ContainerCert.Run

open Files

namespace Machine

variable {ε α : Type} {network : Pyxis.Network} {path : String} {content : ByteArray}

/-- The machine has the given network. -/
def HasNetwork (network : Pyxis.Network) (machine : Machine) : Prop :=
  machine.network = network

/-- The machine has a file that holds the content. -/
def Holds (path : String) (content : ByteArray) (machine : Machine) : Prop :=
  machine.files.Holds path content

theorem onFiles_preserves_network (action : Action FileTree ε α) :
    (onFiles action).Preserves (HasNetwork network) := fun _ h => h

theorem onFiles_preserves_holds {action : Action FileTree ε α}
    (h : action.Preserves (FileTree.Holds path content)) :
    (onFiles action).Preserves (Holds path content) :=
  fun machine hmachine => h machine.files hmachine

end Machine

open Machine

variable {network : Pyxis.Network} {path other : String} {content : ByteArray}

/-- Writing a document leaves the network alone. -/
theorem persist_preserves_network (path : String) (content : ByteArray) :
    (persist machineWriter path content).Preserves (HasNetwork network) := by
  refine .mapError ?_ _
  exact .bind (onFiles_preserves_network _) fun _ =>
    .bind (onFiles_preserves_network _) fun _ => onFiles_preserves_network _

/-- Writing a document under another name does not change what a file holds. -/
theorem persist_preserves_holds
    (hother : (FileTree.segments other).getLast? ≠ (FileTree.segments path).getLast?)
    (given : ByteArray) :
    (persist machineWriter other given).Preserves (Holds path content) := by
  have hopens : (fileWriter.openFile other).Preserves (FileTree.Holds path content) :=
    .bind (FileTree.makeParent_preserves fun _ _ => FileTree.Holds.put_directory) fun _ =>
      FileTree.write_preserves_holds hother .empty
  refine .mapError ?_ _
  exact .bind (onFiles_preserves_holds hopens) fun _ =>
    .bind (onFiles_preserves_holds (FileTree.write_preserves_holds hother given)) fun _ =>
      onFiles_preserves_holds (.pure ())

/-- The file that a document was written into holds it. -/
theorem holds_of_persist {machine saved : Machine}
    (h : persist machineWriter path content machine = (.ok (), saved)) :
    saved.Holds path content := by
  rw [persist, Action.mapError_apply] at h
  obtain ⟨hresult, hsaved⟩ := Action.ending_inj.mp h
  obtain ⟨⟨⟩, opened, -, hrest⟩ :=
    Action.bind_eq_ok.mp (Prod.ext (Action.mapError_eq_ok.mp hresult) hsaved)
  obtain ⟨⟨⟩, written, hwrite, hflush⟩ := Action.bind_eq_ok.mp hrest
  obtain ⟨hwritten, rfl⟩ := Action.ending_inj.mp hwrite
  obtain ⟨-, hsame⟩ := Action.ending_inj.mp hflush
  rw [← hsame]
  exact FileTree.holds_of_write (Prod.ext hwritten rfl)

end ContainerCert.Run
