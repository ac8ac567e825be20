import MarkedSheet.FieldMap

/-!
# Plans of the line-item table

Each page that declares a table column gets a plan: the items start on the row of its first column
marker, and there is room down to the row of the page's first region-end mark, if it has one.  The
first marker of a role decides its column.
-/

namespace MarkedSheet

/-- The number of table rows of a page. -/
inductive Capacity where
  | bounded (rows : Nat)
  | unbounded
  deriving DecidableEq, Repr

namespace Capacity

/-- How many of the remaining items the page takes. -/
def take (c : Capacity) (remaining : Nat) : Nat :=
  match c with
  | bounded rows => min rows remaining
  | unbounded => remaining

def text : Capacity → String
  | bounded rows => toString rows
  | unbounded => "unbounded"

end Capacity

/-- The columns of a table: the cell that declares each role, where there is one. -/
abbrev Columns := List (Role × Address)

namespace Columns

def cell? (columns : Columns) (role : Role) : Option Address :=
  columns.lookup role

/-- The columns with a cell for a role, unless the role has one already. -/
def declare (columns : Columns) (role : Role) (cell : Address) : Columns :=
  match columns.cell? role with
  | some _ => columns
  | none => columns ++ [(role, cell)]

/-- The columns with a cell for a role, which replaces the one it had. -/
def assign (columns : Columns) (role : Role) (cell : Address) : Columns :=
  (role, cell) :: columns.filter fun c => c.1 ≠ role

/-- The declared columns in the order of the roles. -/
def inOrder (columns : Columns) : Columns :=
  Role.all.filterMap fun role => (columns.cell? role).map fun cell => (role, cell)

end Columns

/-- Where the items of one page go. -/
structure PagePlan where
  page : String
  startRow : UInt32
  capacity : Capacity
  columns : Columns
  deriving DecidableEq, Repr

/-- A region-end mark and its page. -/
structure RegionEnd where
  page : String
  cell : Address
  deriving DecidableEq, Repr

namespace PagePlan

/-- The role and the page of a descriptor that declares a table column. -/
def columnOf? (d : Descriptor) : Option Role :=
  if d.kind = .detectionColumn then d.role? else none

/-- The plans with a role of a page declared, at the end when the page is new. -/
def declare (role : Role) (d : Descriptor) : List PagePlan → List PagePlan
  | [] => [⟨d.page, d.cell.row, .unbounded, [(role, d.cell)]⟩]
  | p :: rest =>
      if p.page = d.page then
        { p with columns := Columns.declare p.columns role d.cell } :: rest
      else
        p :: declare role d rest

/-- The plans with what a descriptor adds. -/
def add (plans : List PagePlan) (d : Descriptor) : List PagePlan :=
  match columnOf? d with
  | some role => declare role d plans
  | none => plans

/-- The capacity between a start row and a region-end row. -/
def roomBefore (startRow endRow : UInt32) : Capacity :=
  .bounded (endRow.toNat - startRow.toNat)

/-- The plans with the first one of a page bounded by its region end. -/
def bound (e : RegionEnd) : List PagePlan → List PagePlan
  | [] => []
  | p :: rest =>
      if p.page = e.page then
        { p with capacity := roomBefore p.startRow e.cell.row } :: rest
      else
        p :: bound e rest

end PagePlan

namespace RegionEnd

/-- The region end that a descriptor marks. -/
def of? (d : Descriptor) : Option RegionEnd :=
  if d.kind = .controlMark ∧ d.control? = some .regionEnd then some ⟨d.page, d.cell⟩ else none

/-- The region ends with what a descriptor adds: only the first of a page counts. -/
def add (ends : List RegionEnd) (d : Descriptor) : List RegionEnd :=
  match of? d with
  | some e => if ends.any fun f => f.page = e.page then ends else ends ++ [e]
  | none => ends

/-- What there is to report about a region end. -/
def diagnostic? (plans : List PagePlan) (e : RegionEnd) : Option Diagnostic :=
  match plans.find? fun p => p.page = e.page with
  | none =>
      some (.located .regionEnd e.page e.cell
        "region-end marker on a page without table columns is ignored")
  | some p =>
      if p.startRow < e.cell.row then none
      else
        some (.located .regionEnd e.page e.cell
          ("region-end marker at row " ++ toString e.cell.row.toNat ++
            " is not below the table header at row " ++ toString p.startRow.toNat ++
            "; page holds no items"))

end RegionEnd

namespace FieldMap

/-- The plans before their capacities are known. -/
def openPlans (m : FieldMap) : List PagePlan :=
  m.descriptors.foldl PagePlan.add []

/-- The first region end of each page. -/
def regionEnds (m : FieldMap) : List RegionEnd :=
  m.descriptors.foldl RegionEnd.add []

/-- One plan for each page with table columns, in the order of their first columns. -/
def plans (m : FieldMap) : List PagePlan :=
  m.regionEnds.foldl (fun plans e => PagePlan.bound e plans) m.openPlans

/-- The reports about region ends that bound no table or leave it no row. -/
def planDiagnostics (m : FieldMap) : List Diagnostic :=
  m.regionEnds.filterMap (RegionEnd.diagnostic? m.openPlans)

end FieldMap

end MarkedSheet
