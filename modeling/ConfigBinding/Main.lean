import ConfigBinding.Environment.Block
import ConfigBinding.Inspection

/-!
# The command

Gives the inspecting program its world: the variables of the process, the file that the command line
names as the descriptor, and the one that tells of the machine.
-/

set_option autoImplicit false

namespace ConfigBinding

/-- The fault that a failed reading of a file tells of. -/
def ReadFault.ofError : IO.Error → ReadFault
  | .noFileOrDirectory .. | .noSuchThing .. => .missing
  | .inappropriateType _ code _ => if code = 20 then .notDirectory else .isDirectory
  | .invalidArgument _ 36 _ => .nameTooLong
  | .permissionDenied .. => .other "Permission denied (os error 13)"
  | e => .other (toString e)

/-- Reads the file at a path. -/
def readFile (path : Path) : IO (Except ReadFault (List UInt8)) := do
  try
    let bytes ← IO.FS.readBinFile path.text
    return .ok bytes.toList
  catch e => return .error (ReadFault.ofError e)

/-- A reader of the one file that a command line names, and of the one with the machine's
product. -/
def readerFor (arguments : List String) : IO FileReader := do
  let product ← readFile World.productFile
  let machine : FileReader := fun p => if p = World.productFile then product else .error .missing
  match InspectionOptions.parse arguments with
  | .ok ⟨⟨some path, _, false⟩, _⟩ =>
    let content ← readFile path
    return fun p => if p = path then content else machine p
  | _ => return machine

/-- The variables of the process. -/
def processVariables : IO (List (List UInt8 × List UInt8)) := do
  let block ← IO.FS.readBinFile "/proc/self/environ"
  return Environment.ofBlock block.toList

end ConfigBinding

open ConfigBinding in
/-- Runs the inspecting program on the process's arguments and variables. -/
def main (arguments : List String) : IO UInt32 := do
  let world : World := ⟨← processVariables, ← readerFor arguments⟩
  let program ← IO.appPath
  let completion := Inspection.run world ⟨program.toString⟩ arguments
  IO.print completion.output
  match completion.complaint? with
  | some complaint => IO.eprintln complaint
  | none => pure ()
  return completion.exitCode.toUInt32
