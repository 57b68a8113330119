import SampleLoad.Text.FileReader

/-!
Files in memory, below a working directory. Paths are taken from there, and what the system says of a path
that leads to no file is said here too.
-/

namespace SampleLoad

/-- Why a path leads to no file. -/
inductive PathFault where
  | notFound
  | notDirectory
  | isDirectory
  | tooLong
  | holdsNul
  deriving DecidableEq, Repr

namespace PathFault

def message : PathFault → String
  | notFound => "No such file or directory (os error 2)"
  | notDirectory => "Not a directory (os error 20)"
  | isDirectory => "Is a directory (os error 21)"
  | tooLong => "File name too long (os error 36)"
  | holdsNul => "file name contained an unexpected NUL byte"

end PathFault

/-- Texts of files by their paths. -/
structure FileTree where
  files : List (String × String) := []

namespace FileTree

/-- The parts of a path that lead anywhere. -/
def steps (path : String) : List String := (path.splitOn "/").filter fun part => part ≠ "" && part ≠ "."

/-- A path that can only be a directory's. -/
def namesDirectory (path : String) : Bool :=
  let last := (path.splitOn "/").getLastD ""
  last = "" || last = "."

def file? (t : FileTree) (steps : List String) : Option String := t.files.lookup ("/".intercalate steps)

/-- Files stand below these steps. -/
def isDirectory (t : FileTree) (steps : List String) : Bool :=
  steps = [] || t.files.any fun (name, _) =>
    steps.isPrefixOf (FileTree.steps name) && steps.length < (FileTree.steps name).length

/-- What is wrong with the steps of a path, or the text of the file there. -/
def lookup (t : FileTree) (path : String) : Except PathFault String :=
  let steps := FileTree.steps path
  if path.toList.contains '\x00' then .error .holdsNul
  else if 4096 ≤ path.utf8ByteSize || steps.any (255 < ·.utf8ByteSize) then .error .tooLong
  else if path = "" then .error .notFound
  else if path.toList.head? = some '/' then .error (if steps = [] then .isDirectory else .notFound)
  else if (List.range steps.length).any fun n => (t.file? (steps.take n)).isSome then .error .notDirectory
  else match t.file? steps with
    | some text => if namesDirectory path then .error .notDirectory else .ok text
    | none => .error (if t.isDirectory steps then .isDirectory else .notFound)

/-- Reads files from memory. -/
def reader {m : Type → Type} [Monad m] (t : FileTree) : FileReader m := fun path =>
  match t.lookup path with
  | .ok text => pure (.ok text.toUTF8.toList)
  | .error fault => pure (.error fault.message)

end FileTree

end SampleLoad
