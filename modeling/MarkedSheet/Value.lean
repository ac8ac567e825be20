import MarkedSheet.Decimal.Shortest
import MarkedSheet.Text.Blank

/-!
# Values

What is written into a cell: a whole number, a floating-point number or a text.
-/

namespace MarkedSheet

/-- A value of a report or of a filled cell. -/
inductive Value where
  | integer (n : Int)
  | float (x : Binary64)
  | text (s : String)
  deriving DecidableEq, Repr

namespace Value

def empty : Value :=
  text ""

/-- Only a text can be blank: numbers never are. -/
def isBlank : Value → Bool
  | text s => Text.allBlank s.toList
  | _ => false

/-- The text that stands for the value inside other text. -/
def display : Value → String
  | integer n => toString n
  | float x => x.text
  | text s => s

end Value

end MarkedSheet
