/-!
# Configuration

How dates and methods are written, and the program that converts the filled grid, if any.
-/

namespace MarkedSheet

/-- A program that converts the filled grid; two words in its arguments
stand for the paths of the two files. -/
structure Conversion where
  program : String
  args : List String
  timeoutSeconds : Nat
  extension : String
  deriving DecidableEq, Repr

namespace Conversion

/-- The word that stands for the path of the file to convert. -/
def inputWord : String :=
  "\x7binput\x7d"

/-- The word that stands for the path of the converted file. -/
def outputWord : String :=
  "\x7boutput\x7d"

def defaultArgs : List String :=
  [inputWord, outputWord]

/-- The time limit of a conversion that names none, in seconds. -/
def defaultTimeoutSeconds : Nat :=
  60

def defaultExtension : String :=
  "pdf"

end Conversion

/-- The choices for filling a template. -/
structure Config where
  dateFormat : String
  formatDates : Bool
  splitMethods : Bool
  conversion? : Option Conversion
  deriving DecidableEq, Repr

/-- The pattern of the long date form. -/
def Config.longDateFormat : String :=
  "%Y年%m月%d日"

def Config.standard : Config :=
  ⟨longDateFormat, true, true, none⟩

end MarkedSheet
