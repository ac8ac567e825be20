import MarkedSheet.Cells

/-!
# Templates

A template is a sequence of pages, each a grid of cells with literal text.  A page grows to hold
the cells written to it; its dimensions may also be set.  A template is valid when its pages have
distinct names and every cell lies within the grid of its page; the first page that fails is
reported, and on that page a repeated name comes before a cell outside.
-/

namespace MarkedSheet

/-- A page: its name, its dimensions and the texts of its cells. -/
structure Page where
  id : String
  rows : UInt32
  cols : UInt32
  cells : Cells String
  deriving DecidableEq

namespace Page

def new (id : String) : Page :=
  ⟨id, 0, 0, Cells.empty⟩

def withDimensions (p : Page) (rows cols : UInt32) : Page :=
  { p with rows := rows, cols := cols }

/-- The page with a text written to a cell, grown to hold it. -/
def withCell (p : Page) (a : Address) (text : String) : Page :=
  { p with rows := max p.rows a.row, cols := max p.cols a.col, cells := p.cells.insert a text }

def text? (p : Page) (a : Address) : Option String :=
  p.cells.get? a

/-- Whether a cell lies within the grid; rows and columns count from 1. -/
def contains (p : Page) (a : Address) : Bool :=
  1 ≤ a.row && 1 ≤ a.col && a.row ≤ p.rows && a.col ≤ p.cols

/-- The first cell, in the order of addresses, outside the grid. -/
def outside? (p : Page) : Option Address :=
  p.cells.addresses.find? fun a => !p.contains a

end Page

/-- A sequence of pages. -/
structure Template where
  id : String
  pages : List Page
  deriving DecidableEq

/-- Why a template is not valid. -/
inductive TemplateError where
  | duplicatePage (id : String)
  | cellOutOfBounds (page : String) (cell : Address) (rows cols : UInt32)
  deriving DecidableEq, Repr

def TemplateError.message : TemplateError → String
  | duplicatePage id => "duplicate page id: " ++ id
  | cellOutOfBounds page cell rows cols =>
      "cell " ++ cell.text ++ " lies outside page '" ++ page ++ "' (" ++
        toString rows.toNat ++ " rows x " ++ toString cols.toNat ++ " cols)"

namespace Template

/-- The first fault among the pages, when pages with the names in `seen` stand before them. -/
def pageFault? (seen : List String) : List Page → Option TemplateError
  | [] => none
  | p :: rest =>
      if p.id ∈ seen then some (.duplicatePage p.id)
      else
        match p.outside? with
        | some a => some (.cellOutOfBounds p.id a p.rows p.cols)
        | none => pageFault? (p.id :: seen) rest

def fault? (t : Template) : Option TemplateError :=
  pageFault? [] t.pages

/-- The template if it has no fault. -/
def validate (t : Template) : Except TemplateError Template :=
  match t.fault? with
  | some e => .error e
  | none => .ok t

end Template

end MarkedSheet
