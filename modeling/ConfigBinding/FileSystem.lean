import ConfigBinding.Path
import ConfigBinding.Text.Utf8

/-!
# Files

What reading a file gives: its bytes, or a fault. `FileTree` is a file system of one working
directory with files and empty directories in it; nothing is known of the directories above.
-/

set_option autoImplicit false

namespace ConfigBinding

/-- Why a file was not read. -/
inductive ReadFault where
  | missing
  | isDirectory
  | notDirectory
  | nameTooLong
  | notText
  | other (reason : String)
  deriving DecidableEq, Repr

/-- The words for a fault. -/
def ReadFault.reason : ReadFault → String
  | missing => "No such file or directory (os error 2)"
  | isDirectory => "Is a directory (os error 21)"
  | notDirectory => "Not a directory (os error 20)"
  | nameTooLong => "File name too long (os error 36)"
  | notText => "stream did not contain valid UTF-8"
  | other reason => reason

/-- How files are read. -/
abbrev FileReader :=
  Path → Except ReadFault (List UInt8)

/-- What a name of a directory stands for. -/
inductive FileContent where
  | file (bytes : List UInt8)
  | directory

/-- The names of the working directory. -/
structure FileTree where
  entries : List (String × FileContent)

namespace FileTree

/-- A place reached on the way along a path. -/
inductive Location where
  | workingDirectory
  | subdirectory
  /-- Somewhere above the working directory. -/
  | above
  | file (bytes : List UInt8)

/-- The greatest number of bytes of a name in a directory. -/
def maxNameLength : Nat :=
  255

/-- The greatest number of bytes of a path. -/
def maxPathLength : Nat :=
  4095

/-- The place that a directory has under a name, given what it holds there. -/
def named (piece : List Char) (found : Option Location) : Except ReadFault Location :=
  if maxNameLength < Text.byteLength piece then .error .nameTooLong
  else
    match found with
    | some place => .ok place
    | none => .error .missing

/-- The place that some content of the working directory is. -/
def Location.ofContent : FileContent → Location
  | .file bytes => .file bytes
  | .directory => .subdirectory

/-- The place one piece of a path further. -/
def step (t : FileTree) (piece : List Char) : Location → Except ReadFault Location
  | .file _ => .error .notDirectory
  | .workingDirectory =>
    if piece = [] ∨ piece = ['.'] then .ok .workingDirectory
    else if piece = ['.', '.'] then .ok .above
    else named piece ((t.entries.lookup (String.ofList piece)).map .ofContent)
  | .subdirectory =>
    if piece = [] ∨ piece = ['.'] then .ok .subdirectory
    else if piece = ['.', '.'] then .ok .workingDirectory
    else named piece none
  | .above => if piece ∈ [[], ['.'], ['.', '.']] then .ok .above else named piece none

/-- The bytes of the file at a path. -/
def read (t : FileTree) : FileReader := fun path =>
  let cs := path.text.toList
  if cs = [] then .error .missing
  else if '\x00' ∈ cs then .error (.other "file name contained an unexpected NUL byte")
  else if maxPathLength < Text.byteLength cs then .error .nameTooLong
  else
    let start := if cs.head? = some '/' then Location.above else .workingDirectory
    match (cs.splitOn '/').foldlM (fun place piece => t.step piece place) start with
    | .error fault => .error fault
    | .ok (.file bytes) => .ok bytes
    | .ok _ => .error .isDirectory

end FileTree

end ConfigBinding
