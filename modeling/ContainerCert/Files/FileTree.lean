import ContainerCert.Action
import ContainerCert.Files.IoError
import ContainerCert.Files.Path

/-!
# Trees of files

Directories and files by their location, which is the list of names from the root, and the
operations on them. A path is followed segment by segment from the root or from the working
directory: every segment but the last must lead to a directory, a point stays, two points go up,
and no name may be too long. A slash at the end of a path asks for a directory.
-/

namespace ContainerCert.Files

/-- The names that lead from the root to a place. -/
abbrev Location := List String

/-- What stands at a location. -/
inductive Node where
  | directory
  | file (content : ByteArray)

/-- Two nodes are the same when both are directories or both are files with the same bytes. -/
instance : DecidableEq Node
  | .directory, .directory => .isTrue rfl
  | .directory, .file _ => .isFalse nofun
  | .file _, .directory => .isFalse nofun
  | .file a, .file b =>
    decidable_of_decidable_of_iff (p := a.data = b.data)
      ⟨fun h => by cases a; cases b; simp_all, fun h => by cases h; rfl⟩

/-- Files and directories, and the directory that relative paths start in. Of two entries with one
location the first counts; the root is a directory without an entry. -/
structure FileTree where
  entries : List (Location × Node)
  workingDirectory : Location

/-- How a path ends: with a name, with a name and slashes, or with points or nothing. -/
inductive PathEnd where
  | name
  | slash
  | dots
  deriving DecidableEq, Repr

/-- The greatest count of bytes in a name. -/
def nameLimit : Nat := 255

/-- The greatest count of bytes in a path. -/
def pathLimit : Nat := 4095

/-- Where a path leads: the location, what stands there, and how the path ends. -/
structure Place where
  location : Location
  node : Option Node
  ending : PathEnd

/-- The same place, if its name is not too long for anything to stand there. -/
def Place.named (place : Place) : Except IoError Place :=
  if nameLimit < (place.location.getLast?.getD "").utf8ByteSize then .error .nameTooLong
  else .ok place

namespace FileTree

/-- What stands at a location. -/
def node? (tree : FileTree) (location : Location) : Option Node :=
  if location = [] then some .directory
  else (tree.entries.find? (·.1 == location)).map (·.2)

/-- The tree with something else at a location; a new location comes last. -/
def put (tree : FileTree) (location : Location) (node : Node) : FileTree :=
  if tree.entries.any (·.1 == location) then
    { tree with entries := tree.entries.map fun (place, old) =>
        if place = location then (place, node) else (place, old) }
  else { tree with entries := tree.entries ++ [(location, node)] }

/-- Follow the segments of a path from a directory. Only a name on the way must not be too long;
the last one is looked at where it is used. -/
def follow (tree : FileTree) : Location → PathEnd → List String → Except IoError Place
  | location, ending, [] => .ok ⟨location, some .directory, ending⟩
  | location, ending, segment :: rest =>
    if segment = "" then
      follow tree location (if ending = .name then .slash else ending) rest
    else if segment = "." then follow tree location .dots rest
    else if segment = ".." then follow tree location.dropLast .dots rest
    else
      let next := location ++ [segment]
      match tree.node? next with
      | some .directory => follow tree next .name rest
      | found =>
        if rest = [] then .ok ⟨next, found, .name⟩
        else if rest.all (· == "") then .ok ⟨next, found, .slash⟩
        else if nameLimit < segment.utf8ByteSize then .error .nameTooLong
        else .error (if found.isSome then .notADirectory else .notFound)

/-- The segments of a path. -/
def segments (path : String) : List String :=
  (Text.splitAt '/' path.toList).map String.ofList

/-- Find where a path leads. -/
def locate (tree : FileTree) (path : String) : Except IoError Place :=
  if path.toList.contains '\x00' then .error .brokenName
  else if path.isEmpty then .error .notFound
  else if pathLimit < path.utf8ByteSize then .error .nameTooLong
  else
    let origin := if Path.isAbsolute path then [] else tree.workingDirectory
    tree.follow origin .dots (segments path)

/-- Find what stands where a path leads. -/
def find (tree : FileTree) (path : String) : Except IoError (Location × Node) := do
  let place ← (← tree.locate path).named
  match place.node with
  | none => throw .notFound
  | some (.file content) =>
    if place.ending = .slash then throw .notADirectory else return (place.location, .file content)
  | some .directory => return (place.location, .directory)

/-- Whether a path leads to anything. -/
def doesExist (tree : FileTree) (path : String) : Bool :=
  (tree.find path).isOk

/-- Whether a path leads to a directory. -/
def isDirectory (tree : FileTree) (path : String) : Bool :=
  match tree.find path with
  | .ok (_, .directory) => true
  | _ => false

/-- Whether a path leads to a file. -/
def isFile (tree : FileTree) (path : String) : Bool :=
  match tree.find path with
  | .ok (_, .file _) => true
  | _ => false

/-- The bytes of a file. -/
def read (tree : FileTree) (path : String) : Except IoError ByteArray := do
  match ← tree.find path with
  | (_, .file content) => return content
  | (_, .directory) => throw .isADirectory

/-- The text of a file. -/
def readText (tree : FileTree) (path : String) : Except IoError String := do
  let content ← tree.read path
  match String.fromUTF8? content with
  | some text => return text
  | none => throw .notAText

/-- Where a file can be written, and what it holds now. That the path asks for a directory is told
before its last name is looked at. -/
def writable (tree : FileTree) (path : String) : Except IoError (Location × Option ByteArray) := do
  let place ← tree.locate path
  if place.ending ≠ .name then throw .isADirectory
  let place ← place.named
  match place.node with
  | none => return (place.location, none)
  | some (.file content) => return (place.location, some content)
  | some .directory => throw .isADirectory

/-- Make a file or empty it. -/
def create (path : String) : Action FileTree IoError Unit := do
  let tree ← get
  let (location, _) ← Action.ofExcept (tree.writable path)
  set (tree.put location (.file .empty))

/-- Make a file, or empty it, and fill it. -/
def write (path : String) (content : ByteArray) : Action FileTree IoError Unit := do
  let tree ← get
  let (location, _) ← Action.ofExcept (tree.writable path)
  set (tree.put location (.file content))

/-- Open a file at its end; one that is not there is made. -/
def openAtEnd (path : String) : Action FileTree IoError Unit := do
  let tree ← get
  let (location, content) ← Action.ofExcept (tree.writable path)
  if content.isNone then set (tree.put location (.file .empty))

/-- Make a directory. -/
def makeDirectory (path : String) : Action FileTree IoError Unit := do
  let tree ← get
  let place ← Action.ofExcept ((tree.locate path).bind Place.named)
  match place.node with
  | some _ => throw .alreadyExists
  | none => set (tree.put place.location .directory)

/-- Make a directory unless there is one. -/
def makeDirectoryOr (path : String) (onMissing : Action FileTree IoError Unit) :
    Action FileTree IoError Unit := fun tree =>
  match makeDirectory path tree with
  | (.ok (), after) => (.ok (), after)
  | (.error .notFound, _) => onMissing tree
  | (.error cause, _) => (if tree.isDirectory path then .ok () else .error cause, tree)

/-- Make a directory and those above it that are missing; the fuel bounds how many. -/
def makeDirectoriesUpTo : Nat → String → Action FileTree IoError Unit
  | 0, _ => throw .notFound
  | fuel + 1, path =>
    if path.isEmpty then pure ()
    else makeDirectoryOr path do
      match Path.parent? path with
      | none => throw (.other "failed to create whole tree")
      | some parent => makeDirectoriesUpTo fuel parent
      makeDirectoryOr path (throw .notFound)

/-- Make a directory and those above it that are missing. A parent is shorter than its path, so
there are fewer of them than characters. -/
def makeDirectories (path : String) : Action FileTree IoError Unit :=
  makeDirectoriesUpTo (path.length + 1) path

/-- Make the directory that a file is to stand in, if its path names one. -/
def makeParent (path : String) : Action FileTree IoError Unit :=
  match Path.parent? path with
  | none => pure ()
  | some parent => makeDirectories parent

end FileTree
end ContainerCert.Files
