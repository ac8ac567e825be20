import MarkedSheet.Decimal.Digits
import MarkedSheet.Surroundings

/-!
# A host with four programs

One program copies a file, two do nothing but end well or badly, and one waits; none knows an option.
Directories for a time are made at one place, one after the other.
-/

namespace MarkedSheet.Coreutils

/-- What a program does with its arguments, in a directory and within a time limit. -/
abbrev Action := List String → Location → Duration → Disk → Ending × Disk

/-- The path of the copy of a file, given a path of the copy or of a directory for it. -/
def copyPath (t : FileTree) (source target : String) : String :=
  if t.leadsToDirectory target then
    target ++ "/" ++ (Location.names source).getLast?.getD ""
  else target

/-- Copy a file, given the paths of the file and of the copy. -/
def copy : Action := fun args directory _ d =>
  let t : FileTree := ⟨d, directory⟩
  match args with
  | [source, target] =>
      let target := copyPath t source target
      if t.isSame source target then (.exited (.code 1), d)
      else
        match (t.read source).bind (t.write target) with
        | .ok after => (.exited (.code 0), after.toDisk)
        | .error _ => (.exited (.code 1), d)
  | _ => (.exited (.code 1), d)

/-- Wait for a number of seconds. -/
def wait : Action := fun args _ limit d =>
  match args with
  | [text] =>
      match Decimal.value? text.toList with
      | some seconds =>
          (if 1000 * seconds < limit.milliseconds then .exited (.code 0) else .stillRunning, d)
      | none => (.exited (.code 1), d)
  | _ => (.exited (.code 1), d)

def exit (code : UInt8) : Action := fun _ _ _ d =>
  (.exited (.code code), d)

def action? (program : String) : Option Action :=
  if program = "cp" then some copy
  else if program = "true" then some (exit 0)
  else if program = "false" then some (exit 1)
  else if program = "sleep" then some wait
  else none

/-- The place of the directories that are made. -/
def workDirectory : Location :=
  ["tmp", ".tmpdir"]

/-- Nothing is at a place. -/
def isFree (d : Disk) (p : Location) : Bool :=
  !d.isDirectory p && (d.bytes? p).isNone

def makeDirectory : StateM Disk (Except FileError String) := fun d =>
  if isFree d workDirectory then
    (.ok workDirectory.path, { d with directories := workDirectory :: d.directories })
  else (.error (.other "File exists (os error 17)"), d)

/-- Start a program; without time none ends. -/
def start (program : String) (args : List String) (directory : String) (limit : Duration) :
    StateM Disk (Except FileError Ending) := fun d =>
  match action? program with
  | none =>
      (.error (if Location.nameLimit < program.utf8ByteSize then .nameTooLong else .notFound), d)
  | some action =>
      if limit.milliseconds = 0 then (.ok .stillRunning, d)
      else
        let r := action args (Location.names directory) limit d
        (.ok r.1, r.2)

def host : Host where
  makeDirectory := makeDirectory
  removeDirectory := fun directory => fun d => ((), d.without (Location.names directory))
  start := start
  now := pure ⟨10000, 0⟩

end MarkedSheet.Coreutils
