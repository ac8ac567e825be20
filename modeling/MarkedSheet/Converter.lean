import MarkedSheet.Diagnostic
import MarkedSheet.Duration
import MarkedSheet.FileTree

/-!
# Conversion

A converter turns the written grid into another document within a time limit.  It is optional help:
when it fails, the grid is kept as it was written and the failure is reported.
-/

namespace MarkedSheet

/-- A document in some format, named by the extension of its files. -/
structure Artifact where
  bytes : Bytes
  extension : String
  deriving DecidableEq, Repr

/-- How a program ended: by itself with a code, or by a signal, with its memory dumped or not. -/
inductive ExitStatus where
  | code (value : UInt8)
  | signal (number : Nat) (dumped : Bool)
  deriving DecidableEq, Repr

namespace ExitStatus

def isSuccess (status : ExitStatus) : Bool :=
  status = code 0

/-- The names of the signals from the first one on. -/
def signalNames : List String :=
  ["HUP", "INT", "QUIT", "ILL", "TRAP", "ABRT", "BUS", "FPE", "KILL", "USR1", "SEGV", "USR2",
    "PIPE", "ALRM", "TERM", "STKFLT", "CHLD", "CONT", "STOP", "TSTP", "TTIN", "TTOU", "URG",
    "XCPU", "XFSZ", "VTALRM", "PROF", "WINCH", "IO", "PWR", "SYS"]

def signalName? : Nat → Option String
  | 0 => none
  | n + 1 => signalNames[n]?

def text : ExitStatus → String
  | code value => "exit status: " ++ toString value
  | signal number dumped =>
      "signal: " ++ toString number ++
        (match signalName? number with
          | some name => " (SIG" ++ name ++ ")"
          | none => "") ++
        (if dumped then " (core dumped)" else "")

end ExitStatus

/-- Why a conversion failed. -/
inductive ConversionError where
  | file (reason : FileError)
  | notStarted (program : String) (reason : FileError)
  | exited (program : String) (status : ExitStatus)
  | timedOut (program : String) (limit : Duration)
  deriving DecidableEq, Repr

def ConversionError.message : ConversionError → String
  | file reason => "conversion I/O failed: " ++ reason.message
  | notStarted program reason =>
      "failed to start converter '" ++ program ++ "': " ++ reason.message
  | exited program status =>
      "converter '" ++ program ++ "' exited with " ++ status.text
  | timedOut program limit => "converter '" ++ program ++ "' timed out after " ++ limit.text

/-- What turns an artifact into another within a time limit.  It has no answer at all when it cannot
tell the time at which the limit ends. -/
abbrev Converter := Artifact → Duration → Option (Except ConversionError Artifact)

namespace Converter

/-- The converter that always answers, by a function. -/
def answering (f : Artifact → Duration → Except ConversionError Artifact) : Converter :=
  fun a limit => some (f a limit)

/-- The converter that never finishes in time. -/
def slow (program : String) : Converter :=
  answering fun _ limit => .error (.timedOut program limit)

/-- What a conversion leaves: an artifact and the report of a failure. -/
structure Outcome where
  artifact : Artifact
  failure? : Option Diagnostic
  deriving DecidableEq, Repr

/-- What an answer leaves of an artifact: the converted one, or the artifact itself and why it could
not be converted. -/
def Outcome.ofAnswer (a : Artifact) : Except ConversionError Artifact → Outcome
  | .ok converted => ⟨converted, none⟩
  | .error e =>
      ⟨a, some (.general .conversion
        (e.message ++ "; returning the unconverted ." ++ a.extension ++ " output"))⟩

end Converter

end MarkedSheet
