import MarkedSheet.Plan
import MarkedSheet.Report

/-!
# Placement of line items

The items go to the pages in order.  Each page takes as many as it has room for, on consecutive
rows from its start row; rows past the last 32-bit row do not exist, even on a page without a bound.
The index column counts the items across all pages.  Items that find no room are counted.
-/

namespace MarkedSheet

/-- One cell of the table that is written. -/
structure PlacedCell where
  page : String
  cell : Address
  role : Role
  value : Value
  deriving DecidableEq, Repr

/-- The cells written, and the numbers of items that found room and that did not. -/
structure Placement where
  cells : List PlacedCell
  placed : Nat
  overflow : Nat
  deriving DecidableEq, Repr

namespace LineItem

/-- What an item writes into the column of a role; `index` is its position, counted from 1. -/
def value (item : LineItem) (index : Nat) : Role → Value
  | .index => .integer index
  | .name => .text item.name
  | .unit => .text item.unit
  | .result => .text item.result
  | .limit => .text item.limit
  | .method => .text item.method
  | .judgment => .text (item.judgment?.getD "")

end LineItem

namespace PagePlan

/-- The number of rows from the start row to the last row there is. -/
def rowsLeft (p : PagePlan) : Nat :=
  UInt32.size - p.startRow.toNat

/-- How many of the remaining items the page takes. -/
def share (p : PagePlan) (remaining : Nat) : Nat :=
  min (p.capacity.take remaining) p.rowsLeft

/-- The cells of one item on the row `offset` rows below the start row. -/
def row (p : PagePlan) (offset index : Nat) (item : LineItem) : List PlacedCell :=
  p.columns.inOrder.map fun c =>
    ⟨p.page, c.2.withRow (p.startRow + UInt32.ofNat offset), c.1, item.value index c.1⟩

/-- The cells of consecutive items, the first of which has the given offset and index. -/
def rowsFrom (p : PagePlan) (offset index : Nat) : List LineItem → List PlacedCell
  | [] => []
  | item :: rest => p.row offset index item ++ p.rowsFrom (offset + 1) (index + 1) rest

end PagePlan

namespace Placement

/-- Place the remaining items, `done` of which are placed already, on the pages of the plans. -/
def fill (done : Nat) (items : List LineItem) : List PagePlan → Placement
  | [] => ⟨[], 0, items.length⟩
  | p :: rest =>
      -- The page takes the first items; the pages after it get the others.
      let share := p.share items.length
      let later := fill (done + share) (items.drop share) rest
      { cells := p.rowsFrom 0 (done + 1) (items.take share) ++ later.cells
        placed := share + later.placed
        overflow := later.overflow }

/-- Place items on the pages of the plans. -/
def ofItems (items : List LineItem) (plans : List PagePlan) : Placement :=
  fill 0 items plans

end Placement

end MarkedSheet
