import MarkedSheet.CommandLine.Run

/-!
# The program

The command line on the files of the system.  No other program is started here: a conversion reports
that its program could not be started.
-/

namespace MarkedSheet

open CommandLine

/-- The failure of an access to the file system. -/
def fileError : IO.Error → FileError
  | .noFileOrDirectory .. => .notFound
  | .inappropriateType _ 20 _ => .notDirectory
  | .inappropriateType _ 21 _ => .isDirectory
  | .invalidArgument _ 36 _ => .nameTooLong
  | e => .other (toString e)

/-- An access to the system, or how it failed. -/
def attempt {α : Type} (access : IO α) : IO (Except FileError α) := do
  try
    return .ok (← access)
  catch e =>
    return .error (fileError e)

def system : Surroundings IO where
  makeDirectory := attempt do return (← IO.FS.createTempDir).toString
  removeDirectory := fun directory => do
    let _ ← attempt (IO.FS.removeDirAll directory)
  start := fun _ _ _ _ => return .error (.other "programs cannot be started")
  now := do
    let nanoseconds ← IO.monoNanosNow
    return ⟨nanoseconds / 1000000000, nanoseconds % 1000000000⟩
  read := fun path => attempt do return (← IO.FS.readBinFile path).data
  write := fun path bytes => attempt (IO.FS.writeBinFile path ⟨bytes⟩)

end MarkedSheet

/-- Run the command line. -/
def main (args : List String) : IO UInt32 := do
  let outcome ← MarkedSheet.CommandLine.run MarkedSheet.system args
  IO.print outcome.stdout
  IO.eprint outcome.stderr
  return UInt32.ofNat outcome.status
