import MarkedSheet.Config
import MarkedSheet.Surroundings
import MarkedSheet.Text.Search

/-!
# Conversion by a program

The program is started in a directory made for it, which holds the file to convert, and is expected
to leave the converted file there.  Once it is started, the time at which it has to be done is worked
out, which fails for a limit whose end no clock can show.  The directory is removed in the end.
-/

namespace MarkedSheet.Conversion

def inputName (extension : String) : String :=
  "input." ++ extension

def outputName (c : Conversion) : String :=
  "output." ++ c.extension

/-- The path of a file in a directory. -/
def pathIn (directory name : String) : String :=
  directory ++ "/" ++ name

/-- The arguments with the paths of the two files in place of their words. -/
def arguments (c : Conversion) (directory extension : String) : List String :=
  c.args.map fun arg =>
    Text.replaceAll (Text.replaceAll arg inputWord (pathIn directory (inputName extension)))
      outputWord (pathIn directory c.outputName)

/-- Whether a text can be handed to a program. -/
def isPassable (text : String) : Bool :=
  !text.toList.contains '\x00'

def limit (c : Conversion) : Duration :=
  .ofSeconds c.timeoutSeconds

section

variable {m : Type → Type} [Monad m] (s : Surroundings m) (c : Conversion)

/-- Start the program, unless its name or an argument cannot be passed on. -/
def start (directory extension : String) (limit : Duration) : m (Except FileError Ending) :=
  let args := c.arguments directory extension
  if (c.program :: args).all isPassable then s.start c.program args directory limit
  else pure (.error (.other "nul byte found in provided data"))

/-- What is left of a program that was started: the converted file, or why there is none. -/
def outcome (directory : String) (limit : Duration) :
    Ending → m (Except ConversionError Artifact)
  | .lost reason => return .error (.file reason)
  | .stillRunning => return .error (.timedOut c.program limit)
  | .exited status => do
      if status.isSuccess then
        match ← s.read (pathIn directory c.outputName) with
        | .ok bytes => return .ok ⟨bytes, c.extension⟩
        | .error reason => return .error (.file reason)
      else return .error (.exited c.program status)

/-- Convert an artifact in a directory. -/
def convertIn (directory : String) (a : Artifact) (limit : Duration) :
    m (Option (Except ConversionError Artifact)) := do
  match ← s.write (pathIn directory (inputName a.extension)) a.bytes with
  | .error reason => return some (.error (.file reason))
  | .ok _ =>
      match ← start s c directory a.extension limit with
      | .error reason => return some (.error (.notStarted c.program reason))
      | .ok ending =>
          -- The program has been started by the time its deadline is worked out.
          match (← s.now).after? limit with
          | none => return none
          | some _ => return some (← outcome s c directory limit ending)

/-- Convert an artifact within a time limit. -/
def convert (a : Artifact) (limit : Duration) : m (Option (Except ConversionError Artifact)) := do
  match ← s.makeDirectory with
  | .error reason => return some (.error (.file reason))
  | .ok directory =>
      let answer ← convertIn s c directory a limit
      s.removeDirectory directory
      return answer

end

/-- The converter that runs the program of a conversion beside the files of a tree. -/
def converter (h : Host) (t : FileTree) (c : Conversion) : Converter := fun a limit =>
  (StateT.run (c.convert (FileTree.surroundings h) a limit) t).1

end MarkedSheet.Conversion
