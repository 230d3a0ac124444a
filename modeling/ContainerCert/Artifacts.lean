import ContainerCert.Files.FileTree

/-!
# Where artifacts go

Checks leave files for later inspection. A writer of artifacts has a directory, and writes files
by their names in it: into a tree of files, or into memory.
-/

namespace ContainerCert

open Files

/-- A place for artifacts: its directory, and how a file in it is written. Writing gives the whole
path of the file. -/
structure ArtifactsWriter (σ : Type) where
  path : String
  write : String → ByteArray → Action σ IoError String

/-- The same writer where its state is a part of a larger one. -/
def ArtifactsWriter.within {σ τ : Type} (writer : ArtifactsWriter σ) (part : τ → σ)
    (replace : σ → τ → τ) : ArtifactsWriter τ where
  path := writer.path
  write name content := (writer.write name content).within part replace

namespace Artifacts

/-- The path of a location. -/
def pathOf (location : Files.Location) : String :=
  "/" ++ "/".intercalate location

/-- Make an artifacts directory and give its path, which starts at the root. -/
def makeDirectory (directory : String) : Action FileTree IoError String := do
  let tree ← get
  let whole := Path.join (pathOf tree.workingDirectory) directory
  FileTree.makeDirectories whole
  return whole

/-- Write a file of an artifacts directory, with the directories it needs. -/
def writeFile (directory name : String) (content : ByteArray) : Action FileTree IoError String := do
  let whole := Path.join directory name
  FileTree.makeParent whole
  FileTree.write whole content
  return whole

/-- The writer for an artifacts directory. -/
def directoryWriter (directory : String) : ArtifactsWriter FileTree :=
  ⟨directory, writeFile directory⟩

/-- Artifacts that are kept in memory, in the order of their names. -/
abbrev Memory := List (String × ByteArray)

namespace Memory

/-- What is kept under a name. -/
def get? (memory : Memory) (name : String) : Option ByteArray :=
  (memory.find? (·.1 == name)).map (·.2)

/-- The names under which something is kept. -/
def names (memory : Memory) : List String :=
  memory.map (·.1)

/-- Keep something under a name, in place of what was kept there. -/
def insert (name : String) (content : ByteArray) : Memory → Memory
  | [] => [(name, content)]
  | (other, old) :: rest =>
    if name = other then (name, content) :: rest
    else if name < other then (name, content) :: (other, old) :: rest
    else (other, old) :: insert name content rest

/-- The writer that keeps artifacts in memory as if they stood in a directory. -/
def writer (root : String) : ArtifactsWriter Memory where
  path := root
  write name content := do
    modify (insert name content)
    return Path.join root name

end Memory
end Artifacts
end ContainerCert
