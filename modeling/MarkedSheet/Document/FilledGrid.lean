import MarkedSheet.FilledGrid
import MarkedSheet.Toml.Printer

/-!
# Filled grids in documents

The pages of a filled grid are written with their dimensions and the values of their cells by
address.
-/

namespace MarkedSheet

open Toml

def Value.item : Value → Item
  | integer n => .integer n
  | float x => .float x
  | text s => .string s

namespace FilledPage

def table (p : FilledPage) : Table :=
  [("id", .string p.id), ("rows", .integer p.rows.toNat), ("cols", .integer p.cols.toNat),
    ("cells", .table (p.cells.entries.map fun e => (e.1.text, e.2.item)))]

def toToml (p : FilledPage) : String :=
  print p.table

end FilledPage

namespace FilledGrid

def table (g : FilledGrid) : Table :=
  [("template_id", .string g.template), ("report_id", .string g.report),
    ("pages", .rows (g.pages.map FilledPage.table))]

/-- The document of a grid. -/
def toToml (g : FilledGrid) : String :=
  print g.table

end FilledGrid

end MarkedSheet
