/-!
# Files by path

A path is a row of steps between slashes. An empty step and a single point stay where
they are, two points go up, and any other step is the name of a file or a directory that
is entered. Nothing can be entered in a file. A path that ends at a file gives its text.

A directory held in memory answers paths as a disk would. Of what lies above it only
that it consists of directories is known.
-/

namespace Reckon

namespace CommandLine

/-- Why a file cannot be read. -/
inductive FileError where
  | notFound
  | isDirectory
  | notDirectory
  | nameTooLong
  | accessDenied
  deriving DecidableEq, Repr

/-- The reason as it is shown. -/
def FileError.message : FileError → String
  | .notFound => "No such file or directory"
  | .isDirectory => "Is a directory"
  | .notDirectory => "Not a directory"
  | .nameTooLong => "File name too long"
  | .accessDenied => "Permission denied"

/-- A directory: the texts of its files by the names on the way to them. -/
structure Directory where
  files : List (List String × String)

/-- Where a path has led. -/
inductive Place where
  | inside (trail : List String)
  | above
  | file (text : String)
  deriving DecidableEq, Repr

/-- How many bytes a name may have. -/
def longestName : Nat := 255

namespace Directory

/-- A directory with files named by their paths. -/
def ofFiles (files : List (String × String)) : Directory :=
  ⟨files.map fun (path, text) => (path.splitOn "/", text)⟩

/-- Enters what a name inside the directory stands for. -/
def enterNamed (directory : Directory) (trail : List String) (name : String) :
    Except FileError Place :=
  let longer := trail ++ [name]
  match directory.files.lookup longer with
  | some text => .ok (.file text)
  | none =>
    if directory.files.any (fun (path, _) => longer.isPrefixOf path) then .ok (.inside longer)
    else .error .notFound

/-- Takes one step of a path. -/
def enter (directory : Directory) (place : Place) (step : String) : Except FileError Place :=
  match place with
  | .file _ => .error .notDirectory
  | place =>
    if step = "" || step = "." then .ok place
    else if longestName < step.utf8ByteSize then .error .nameTooLong
    else
      match place with
      | .inside trail =>
        if step = ".." then .ok (if trail.isEmpty then .above else .inside trail.dropLast)
        else directory.enterNamed trail step
      | _ => if step = ".." then .ok .above else .error .notFound

/-- The text of the file that a path leads to. -/
def read (directory : Directory) (path : String) : Except FileError String := do
  if path = "" then throw .notFound
  let start : Place := if path.toList.head? = some '/' then .above else .inside []
  match ← (path.splitOn "/").foldlM directory.enter start with
  | .file text => return text
  | _ => throw .isDirectory

end Directory

end CommandLine

end Reckon
