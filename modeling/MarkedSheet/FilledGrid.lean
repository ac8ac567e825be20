import MarkedSheet.Template
import MarkedSheet.Value

/-!
# Filled grids

The document that comes out: pages like those of the template, with values in their cells.  A page
grows when a cell outside its grid is written.
-/

namespace MarkedSheet

/-- A page with values. -/
structure FilledPage where
  id : String
  rows : UInt32
  cols : UInt32
  cells : Cells Value
  deriving DecidableEq

namespace FilledPage

def get? (p : FilledPage) (a : Address) : Option Value :=
  p.cells.get? a

/-- The page with a value written to a cell, grown to hold it. -/
def set (p : FilledPage) (a : Address) (v : Value) : FilledPage :=
  { p with rows := max p.rows a.row, cols := max p.cols a.col, cells := p.cells.insert a v }

/-- The page of a template with its texts as values. -/
def ofPage (p : Page) : FilledPage :=
  ⟨p.id, p.rows, p.cols, p.cells.map Value.text⟩

end FilledPage

/-- The pages of a filled template. -/
structure FilledGrid where
  template : String
  report : String
  pages : List FilledPage
  deriving DecidableEq

namespace FilledGrid

/-- The grid of a template before anything is filled in. -/
def ofTemplate (t : Template) (report : String) : FilledGrid :=
  ⟨t.id, report, t.pages.map FilledPage.ofPage⟩

/-- The first page with a name. -/
def page? (g : FilledGrid) (id : String) : Option FilledPage :=
  g.pages.find? fun p => p.id = id

/-- The pages with a value written to a cell of the first page with a name, if there is one. -/
def setOn (page : String) (a : Address) (v : Value) : List FilledPage → List FilledPage
  | [] => []
  | p :: rest => if p.id = page then p.set a v :: rest else p :: setOn page a v rest

/-- The grid with a value written to a cell. -/
def set (g : FilledGrid) (page : String) (a : Address) (v : Value) : FilledGrid :=
  { g with pages := setOn page a v g.pages }

def value? (g : FilledGrid) (page : String) (a : Address) : Option Value :=
  (g.page? page).bind fun p => p.get? a

end FilledGrid

end MarkedSheet
