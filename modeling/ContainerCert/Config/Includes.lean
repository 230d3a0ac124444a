import ContainerCert.Config.File
import ContainerCert.Config.Interpolation
import ContainerCert.Files.FileTree
import ContainerCert.Toml.Document

/-!
# Loading configuration files

A configuration file is read, its variables are put in, and the files it includes are loaded
before it, each laid over those before, with the file itself on top. Includes are found from the
directory of the file that lists them. No file is loaded twice, and includes go only so deep.
-/

namespace ContainerCert.Config

open Files

/-- Why a configuration is not loaded. -/
inductive LoadError where
  | tooDeep (path : String)
  | unresolved (path : String) (cause : IoError)
  | circular (path : String)
  | unreadable (path : String) (cause : IoError)
  | expansion (cause : ExpandError)
  | malformed (path : String) (cause : Data.Fault)
  | missing (path listed : String)
  deriving DecidableEq, Repr

/-- How deep includes may go. -/
def includeLimit : Nat := 10

/-- What one step of an explanation says: a text, or what is wrong with a document. -/
inductive Reason where
  | text (message : String)
  | document (fault : Data.Fault)
  deriving DecidableEq, Repr

/-- Why a configuration is not loaded, step by step, the widest first. -/
def LoadError.reasons : LoadError → List Reason
  | .tooDeep path =>
    [.text ("include depth exceeded maximum of " ++ toString includeLimit ++ " levels at '" ++
      path ++ "'")]
  | .unresolved path cause =>
    [.text ("canonicalize path '" ++ path ++ "'"), .text cause.message]
  | .circular path => [.text ("circular include detected: '" ++ path ++ "'")]
  | .unreadable path cause => [.text ("read config '" ++ path ++ "'"), .text cause.message]
  | .expansion cause => [.text cause.message]
  | .malformed path cause => [.text ("parse config '" ++ path ++ "'"), .document cause]
  | .missing path listed =>
    [.text ("included config file not found: '" ++ path ++ "' (resolved from '" ++ listed ++ "')")]

namespace File

/-- The path of a file that another lists among its includes. -/
def includePath (path listed : String) : String :=
  Path.join ((Path.parent? path).getD ".") listed

/-- What the file at a path says by itself. -/
def readAt (files : FileTree) (lookup : String → Option String) (path : String) :
    Except LoadError File := do
  let text ← (files.readText path).mapError (.unreadable path)
  let expanded ← (expand lookup text).mapError .expansion
  (Toml.decodeText decode expanded).mapError (.malformed path)

/-- Load the file at a path with its includes, as long as the count of levels lasts. The locations
of the files loaded so far go in, and come out with those that were added. -/
def loadAt (files : FileTree) (lookup : String → Option String) :
    Nat → String → List Location → Except LoadError (File × List Location)
  | 0, path, _ => .error (.tooDeep path)
  | levels + 1, path, loaded => do
    let (location, _) ← (files.find path).mapError (.unresolved path)
    if location ∈ loaded then throw (.circular path)
    let file ← readAt files lookup path
    let (included, loaded) ← file.includes.foldlM (fun (lower, loaded) listed => do
      let found := includePath path listed
      if !files.doesExist found then throw (.missing found listed)
      let (upper, loaded) ← loadAt files lookup levels found loaded
      return (upper.laidOver lower, loaded)) (empty, location :: loaded)
    return (file.laidOver included, loaded)

/-- Load the file at a path with its includes. -/
def loadWithIncludes (files : FileTree) (lookup : String → Option String) (path : String) :
    Except LoadError File := do
  let (file, _) ← loadAt files lookup (includeLimit + 1) path []
  return file

/-- The configuration file of a working directory. -/
def defaultPath : String := "preflight.toml"

/-- Load the configuration: a file that is named must be there; without a name the default file
counts if there is one. -/
def load (files : FileTree) (lookup : String → Option String) (named : Option String) :
    Except LoadError File :=
  match named with
  | some path => loadWithIncludes files lookup path
  | none =>
    if files.isFile defaultPath then loadWithIncludes files lookup defaultPath else .ok empty

end File
end ContainerCert.Config
