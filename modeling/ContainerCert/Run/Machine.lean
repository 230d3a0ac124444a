import ContainerCert.Files.FileTree
import ContainerCert.Pyxis.Network
import ContainerCert.Run.Context

/-!
# The machine of a run

What a run works on: the files, the network, the signals and the clock.
-/

namespace ContainerCert.Run

open Files (FileTree IoError)

/-- What a run works on. -/
structure Machine where
  files : FileTree
  network : Pyxis.Network
  signals : Signals
  /-- The text of the present time. -/
  timestamp : String

namespace Machine

variable {ε α : Type}

/-- An action on the files. -/
def onFiles (action : Action FileTree ε α) : Action Machine ε α :=
  action.within Machine.files fun files machine => { machine with files }

/-- An action on the network. -/
def onNetwork (action : Action Pyxis.Network ε α) : Action Machine ε α :=
  action.within Machine.network fun network machine => { machine with network }

/-- The clock of the machine; time may pass before each look at it. It counts milliseconds in 64
bits, which is more than half a billion years, and stands still at the last of them. -/
def clock : Check.Clock Machine where
  timestamp := fun machine => (machine.timestamp, machine)
  milliseconds := fun machine =>
    let signals := machine.signals.advance
    (min signals.now (UInt64.size - 1), { machine with signals })

/-- A writer of artifacts into the files of the machine. -/
def directoryWriter (directory : String) : ArtifactsWriter Machine :=
  (Artifacts.directoryWriter directory).within Machine.files
    fun files machine => { machine with files }

/-- What surrounds a run in a context on the machine. -/
def scope (context : Context Machine) : Check.Scope Machine :=
  context.scope Machine.signals fun signals machine => { machine with signals }

end Machine
end ContainerCert.Run
