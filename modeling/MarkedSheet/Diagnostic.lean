import MarkedSheet.Address

/-!
# Diagnostics

A diagnostic reports a condition that does not stop the work, and where it was found.
-/

namespace MarkedSheet

inductive Category where
  | malformedCell
  | emptyMarker
  | unknownCode
  | noMarkers
  | regionEnd
  | overflow
  | conversion
  deriving DecidableEq, Repr

namespace Category

def all : List Category :=
  [malformedCell, emptyMarker, unknownCode, noMarkers, regionEnd, overflow, conversion]

def word : Category → String
  | malformedCell => "malformed-cell"
  | emptyMarker => "empty-marker"
  | unknownCode => "unknown-code"
  | noMarkers => "no-markers"
  | regionEnd => "region-end"
  | overflow => "overflow"
  | conversion => "conversion"

end Category

/-- A finding, with the page and the cell it is about when there is one. -/
structure Diagnostic where
  category : Category
  message : String
  page? : Option String
  cell? : Option Address
  deriving DecidableEq, Repr

namespace Diagnostic

/-- A finding about no particular place. -/
def general (category : Category) (message : String) : Diagnostic :=
  ⟨category, message, none, none⟩

/-- A finding about a cell. -/
def located (category : Category) (page : String) (cell : Address) (message : String) :
    Diagnostic :=
  ⟨category, message, some page, some cell⟩

/-- The place of a finding; a cell without its page is not named. -/
def place (d : Diagnostic) : String :=
  match d.page?, d.cell? with
  | some page, some cell => " " ++ page ++ "!" ++ cell.text
  | some page, none => " " ++ page
  | none, _ => ""

/-- A finding in one line. -/
def text (d : Diagnostic) : String :=
  "[" ++ d.category.word ++ "]" ++ d.place ++ ": " ++ d.message

end Diagnostic

end MarkedSheet
