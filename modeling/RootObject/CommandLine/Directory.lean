/-!
Files by their paths. A path is followed name by name from the working directory, of which nothing is
known but what is in it: above it there are only directories without files.
-/

namespace RootObject.CommandLine

/-- Why a file cannot be read as text. -/
inductive FileError where
  | missing
  | isDirectory
  | notDirectory
  | forbidden
  | nameTooLong
  | notText
  | other (message : String)
  deriving DecidableEq, Repr

def FileError.message : FileError → String
  | .missing => "No such file or directory (os error 2)"
  | .isDirectory => "Is a directory (os error 21)"
  | .notDirectory => "Not a directory (os error 20)"
  | .forbidden => "Permission denied (os error 13)"
  | .nameTooLong => "File name too long (os error 36)"
  | .notText => "stream did not contain valid UTF-8"
  | .other message => message

/-- The files in a directory and in the directories inside it, each with the names that lead to it. -/
structure Directory where
  files : List (List String × List UInt8)
  deriving DecidableEq, Repr

namespace Directory

/-- Where following a path has led. -/
inductive Place where
  | above
  | directory (names : List String)
  | file (content : List UInt8)
  deriving DecidableEq, Repr

/-- Whether some file lies in the directory that the names lead to. -/
def contains (directory : Directory) (names : List String) : Bool :=
  directory.files.any fun file => names.isPrefixOf file.1

def enter (directory : Directory) (place : Place) (name : String) : Except FileError Place :=
  match place with
  | .file _ => .error .notDirectory
  | .above =>
      if name = "" ∨ name = "." ∨ name = ".." then .ok .above
      else if 255 < name.utf8ByteSize then .error .nameTooLong
      else .error .missing
  | .directory names =>
      if name = "" ∨ name = "." then .ok place
      else if name = ".." then .ok (if names.isEmpty then .above else .directory names.dropLast)
      else if 255 < name.utf8ByteSize then .error .nameTooLong
      else
        let names := names ++ [name]
        match directory.files.lookup names with
        | some content => .ok (.file content)
        | none => if directory.contains names then .ok (.directory names) else .error .missing

/-- The content of the file that a path leads to. -/
def content (directory : Directory) (path : String) : Except FileError (List UInt8) := do
  if 4095 < path.utf8ByteSize then
    .error .nameTooLong
  let start := if path.startsWith "/" then .above else .directory []
  match ← (path.splitOn "/").foldlM directory.enter start with
  | .file content => return content
  | .above | .directory _ => .error .isDirectory

/-- The directory that holds files by their paths. -/
def ofFiles (files : List (String × List UInt8)) : Directory where
  files := files.map fun (path, content) =>
    ((path.splitOn "/").filter fun name => name ≠ "" ∧ name ≠ ".", content)

end Directory
end RootObject.CommandLine
