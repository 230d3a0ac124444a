import ContainerCert.Text.Cut

/-!
# Paths

A path is a text of segments parted by slashes; one that starts with a slash starts at the root.
Empty segments and segments of one point lead nowhere, so the parent of a path and its last name
pass them over; only a point at the very start counts as a segment.
-/

namespace ContainerCert.Files

open Text (splitAt joinWith)

namespace Path

/-- Whether the path starts at the root. -/
def isAbsolute (path : String) : Bool :=
  path.toList.head? == some '/'

/-- A path followed from another: an absolute one stands for itself, and any other is put behind a
slash. -/
def join (base path : String) : String :=
  if isAbsolute path then path
  else match base.toList.getLast? with
    | none => path
    | some '/' => base ++ path
    | some _ => base ++ "/" ++ path

/-- Whether a segment leads nowhere. -/
def isIdle (segment : List Char) : Bool :=
  segment.isEmpty || segment == ['.']

/-- Where a path starts, and its segments: at the root, at a point, or in the working directory. -/
def start : List Char → List Char × List Char
  | '/' :: rest => (['/'], rest)
  | ['.'] => (['.'], [])
  | '.' :: '/' :: rest => (['.'], '/' :: rest)
  | path => ([], path)

/-- The segments of a path behind its start, last first, without idle ones at the end. -/
def segmentsBack (body : List Char) : List (List Char) :=
  (splitAt '/' body).reverse.dropWhile isIdle

/-- The path without its last segment; none for the root and for the empty path. -/
def parent? (path : String) : Option String :=
  let (head, body) := start path.toList
  match segmentsBack body with
  | [] => if head = ['.'] then some "" else none
  | _ :: before =>
    some (String.ofList (head ++ joinWith '/' (before.dropWhile isIdle).reverse))

/-- The last segment of a path, if it is a name. -/
def fileName? (path : String) : Option String :=
  match segmentsBack (start path.toList).2 with
  | [] => none
  | last :: _ => if last = ['.', '.'] then none else some (String.ofList last)

end Path
end ContainerCert.Files
