import MarkedSheet.Converter

/-!
# Surroundings of a run

A run reads and writes files, and hands a conversion to a program that it starts in a directory made
for it.  What it asks for is written down here for any way to give it.  On files that are at hand as
a value, the rest of the machine is a host, which is free in what it does to the disk, as programs
are.
-/

namespace MarkedSheet

/-- How a program that was started ends within a time limit, as far as can be told. -/
inductive Ending where
  | exited (status : ExitStatus)
  | stillRunning
  | lost (reason : FileError)
  deriving DecidableEq, Repr

/-- Directories for a time, programs to start, and a clock. -/
structure Machine (m : Type → Type) where
  makeDirectory : m (Except FileError String)
  removeDirectory : String → m Unit
  /-- Start a program with its arguments in a directory, and see to its end within a time limit. -/
  start : String → List String → String → Duration → m (Except FileError Ending)
  now : m Instant

/-- A machine with its files. -/
structure Surroundings (m : Type → Type) extends Machine m where
  read : String → m (Except FileError Bytes)
  write : String → Bytes → m (Except FileError Unit)

/-- A machine beside the files of a disk, which it changes. -/
abbrev Host := Machine (StateM Disk)

namespace FileTree

/-- A step on the disk of a tree; the current directory is not its affair. -/
def onDisk {α : Type} (step : StateM Disk α) : StateM FileTree α := fun t =>
  let r := StateT.run step t.toDisk
  (r.1, { t with toDisk := r.2 })

/-- A host with the files of a tree. -/
def surroundings (h : Host) : Surroundings (StateM FileTree) where
  makeDirectory := onDisk h.makeDirectory
  removeDirectory := fun directory => onDisk (h.removeDirectory directory)
  start := fun program args directory limit => onDisk (h.start program args directory limit)
  now := onDisk h.now
  read := fun path => fun t => (t.read path, t)
  write := fun path bytes => fun t =>
    match t.write path bytes with
    | .ok after => (.ok (), after)
    | .error e => (.error e, t)

end FileTree

end MarkedSheet
