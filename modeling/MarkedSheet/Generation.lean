import MarkedSheet.Calendar.NumericDate
import MarkedSheet.Compilation
import MarkedSheet.Config
import MarkedSheet.FilledGrid
import MarkedSheet.MethodText
import MarkedSheet.Placement
import MarkedSheet.Resolution
import MarkedSheet.Substitution

/-!
# Generation of a filled grid

The cells with fields are filled from the report and its history, cells with table or control marks
are cleared, and the line items are written over them.  Only a field map whose spans cut through a
character of the cell's text stops the work.
-/

namespace MarkedSheet

/-- A filled grid, what was placed on it and all that was reported. -/
structure Generation where
  grid : FilledGrid
  placement : Placement
  diagnostics : List Diagnostic
  deriving DecidableEq

namespace Descriptor

/-- A value in the form that the configuration asks for: date fields take the long form of dates. -/
def formatted (d : Descriptor) (config : Config) (v : Value) : Value :=
  if config.formatDates && d.fieldType = .date then
    match v with
    | .text s => .text (NumericDate.longForm s config.dateFormat)
    | .integer n =>
        let raw := toString n
        let long := NumericDate.longForm raw config.dateFormat
        if long = raw then v else .text long
    | .float _ => v
  else
    v

end Descriptor

namespace PlacedCell

/-- The value of a table cell in the form that the configuration asks for. -/
def formatted (c : PlacedCell) (config : Config) : Value :=
  match c.role, c.value with
  | .method, .text method =>
      if config.splitMethods then .text (MethodText.split method) else c.value
  | _, v => v

end PlacedCell

namespace Generation

/-- All that the value of a field depends on. -/
structure Context where
  registry : Registry
  report : Report
  history : HistoryLookup
  config : Config

/-- The value of a field with the span it replaces. -/
def replacement (ctx : Context) (d : Descriptor) : Replacement :=
  ⟨d.span, d.formatted ctx.config (d.resolve ctx.registry ctx.report ctx.history)⟩

/-- The value of a cell with fields; a table or control mark among them clears it. -/
def cellValue? (ctx : Context) (g : CellGroup) : Option Value :=
  if g.fields.all Descriptor.isResolvable then
    Substitution.compose? g.text.toList (g.fields.map (replacement ctx))
  else
    some .empty

/-- The grid with the cells of these groups filled; groups on pages it lacks are passed over. -/
def fillCells? (ctx : Context) (grid : FilledGrid) : List CellGroup → Option FilledGrid
  | [] => some grid
  | g :: rest =>
      match grid.page? g.page with
      -- A field map may come from a template that had more pages.
      | none => fillCells? ctx grid rest
      | some _ =>
          (cellValue? ctx g).bind fun v => fillCells? ctx (grid.set g.page g.cell v) rest

def writeTable (config : Config) (grid : FilledGrid) (cells : List PlacedCell) : FilledGrid :=
  cells.foldl (fun grid c => grid.set c.page c.cell (c.formatted config)) grid

/-- The report about items that found no room. -/
def overflowDiagnostic? (placement : Placement) (items : Nat) : Option Diagnostic :=
  if 0 < placement.overflow then
    some (.general .overflow
      (toString placement.overflow ++ " of " ++ toString items ++
        " line items did not fit the template's table rows"))
  else none

/-- Fill a template by its field map; nothing when a span cuts through a character. -/
def run? (ctx : Context) (t : Template) (m : FieldMap) : Option Generation :=
  (fillCells? ctx (FilledGrid.ofTemplate t ctx.report.id) m.cells).map fun grid =>
    let placement := Placement.ofItems ctx.report.lineItems m.plans
    { grid := writeTable ctx.config grid placement.cells
      placement := placement
      diagnostics :=
        m.issues ++ m.planDiagnostics ++
          (overflowDiagnostic? placement ctx.report.lineItems.length).toList }

end Generation

end MarkedSheet
