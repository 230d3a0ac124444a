/-!
# Errors of files

Why an operation on files fails, with the texts in which the operating system reports it.
-/

namespace ContainerCert.Files

/-- Why an operation on files fails. -/
inductive IoError where
  | notFound
  | alreadyExists
  | notADirectory
  | isADirectory
  | nameTooLong
  /-- A path with a NUL character in it. -/
  | brokenName
  /-- A file whose bytes are not a text. -/
  | notAText
  | other (text : String)
  deriving DecidableEq, Repr

/-- A system error with its number. -/
def systemMessage (text : String) (number : Nat) : String :=
  text ++ " (os error " ++ toString number ++ ")"

/-- The text of an error. -/
def IoError.message : IoError → String
  | .notFound => systemMessage "No such file or directory" 2
  | .alreadyExists => systemMessage "File exists" 17
  | .notADirectory => systemMessage "Not a directory" 20
  | .isADirectory => systemMessage "Is a directory" 21
  | .nameTooLong => systemMessage "File name too long" 36
  | .brokenName => "file name contained an unexpected NUL byte"
  | .notAText => "stream did not contain valid UTF-8"
  | .other text => text

end ContainerCert.Files
