/-
  The command of the library: files on disk, and the two streams that are printed to.
-/
import ScalarStubs.CommandLine.Program

namespace ScalarStubs

/-- What a failure of the file system is for this library. Some of its codes come with their sign
    reversed. -/
def FileError.ofIO (e : IO.Error) : FileError :=
  match e with
  | .noFileOrDirectory .. => .notFound
  | .inappropriateType _ code _ =>
    if code = 21 ∨ code = -21 then .isDirectory
    else if code = 20 ∨ code = -20 then .notDirectory
    else .other (toString e)
  | e => .other (toString e)

/-- Runs something on the file system. -/
def onDisk {α : Type} (action : IO α) : IO (Except FileError α) := do
  try
    return .ok (← action)
  catch e =>
    return .error (.ofIO e)

instance : FileStore IO where
  read path := onDisk do return (← IO.FS.readBinFile path).toList
  write path bytes := onDisk do IO.FS.writeBinFile path bytes.toByteArray

end ScalarStubs

/-- Runs the program on the arguments that it was called with. -/
def main (arguments : List String) : IO UInt32 := do
  let outcome ← ScalarStubs.CommandLine.run arguments
  IO.print outcome.out
  IO.eprint outcome.err
  return outcome.code
