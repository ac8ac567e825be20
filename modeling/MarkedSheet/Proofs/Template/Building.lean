import MarkedSheet.Proofs.Grid.Contents
import MarkedSheet.Proofs.Template.TextCells

/-!
# Pages that are built

A page is built by giving its name, dimensions if they are to be declared, and then the texts of
its cells one after the other.  It keeps the last text for every address, and it has exactly the
rows and columns that its declared dimensions and its cells require.
-/

namespace MarkedSheet

namespace Page

/-- The page with texts written to its cells, one after the other. -/
def withCells (p : Page) (writes : List (Address × String)) : Page :=
  writes.foldl (fun p w => p.withCell w.1 w.2) p

section WithCells

variable (p : Page) (writes : List (Address × String))

theorem id_withCells : (p.withCells writes).id = p.id := by
  induction writes generalizing p with
  | nil => rfl
  | cons w writes ih => exact ih (p.withCell w.1 w.2)

theorem cells_withCells :
    (p.withCells writes).cells = writes.foldl (fun cells w => cells.insert w.1 w.2) p.cells := by
  induction writes generalizing p with
  | nil => rfl
  | cons w writes ih => exact ih (p.withCell w.1 w.2)

/-- An extent that grows with each cell just to hold it is the least one that holds them all. -/
theorem withCells_le_iff {size : Page → UInt32} {extent : Address → UInt32}
    (hstep : ∀ p a s, size (withCell p a s) = max (size p) (extent a)) (n : UInt32) :
    size (p.withCells writes) ≤ n ↔ size p ≤ n ∧ ∀ w ∈ writes, extent w.1 ≤ n := by
  induction writes generalizing p with
  | nil => simp [withCells]
  | cons w writes ih =>
      have hfirst : size (p.withCell w.1 w.2) ≤ n ↔ size p ≤ n ∧ extent w.1 ≤ n := by
        rw [hstep, word_max_le_iff]
      rw [List.forall_mem_cons, ← and_assoc, ← hfirst]
      exact ih (p.withCell w.1 w.2)

theorem rows_withCells_le_iff (n : UInt32) :
    (p.withCells writes).rows ≤ n ↔ p.rows ≤ n ∧ ∀ w ∈ writes, w.1.row ≤ n :=
  withCells_le_iff p writes (fun _ _ _ => rfl) n

theorem cols_withCells_le_iff (n : UInt32) :
    (p.withCells writes).cols ≤ n ↔ p.cols ≤ n ∧ ∀ w ∈ writes, w.1.col ≤ n :=
  withCells_le_iff p writes (fun _ _ _ => rfl) n

end WithCells

end Page

/-- How a page is built: its name, the rows and columns declared for it if any are, and the texts
that are then written to its cells. -/
structure PageBuild where
  id : String
  size? : Option (UInt32 × UInt32)
  writes : List (Address × String)

namespace PageBuild

/-- The page before anything is written to it. -/
def start (b : PageBuild) : Page :=
  match b.size? with
  | some size => (Page.new b.id).withDimensions size.1 size.2
  | none => Page.new b.id

def page (b : PageBuild) : Page :=
  b.start.withCells b.writes

/-- The rows that are declared; none when there is no declaration. -/
def rows (b : PageBuild) : UInt32 :=
  (b.size?.map Prod.fst).getD 0

/-- The columns that are declared; none when there is no declaration. -/
def cols (b : PageBuild) : UInt32 :=
  (b.size?.map Prod.snd).getD 0

/-- Rows and columns of all cells that are written to count from 1. -/
def Placeable (b : PageBuild) : Prop :=
  ∀ w ∈ b.writes, 1 ≤ w.1.row ∧ 1 ≤ w.1.col

end PageBuild

/-- The page holds the text that was written last to each address, and it is no larger than what
was declared and its cells require. -/
structure Page.IsBuiltBy (p : Page) (b : PageBuild) : Prop where
  id : p.id = b.id
  text?_iff : ∀ a s, p.text? a = some s ↔
    ∃ before after, b.writes = before ++ (a, s) :: after ∧ ∀ w ∈ after, w.1 ≠ a
  rows_le_iff : ∀ n, p.rows ≤ n ↔ b.rows ≤ n ∧ ∀ a ∈ p.cells.addresses, a.row ≤ n
  cols_le_iff : ∀ n, p.cols ≤ n ↔ b.cols ≤ n ∧ ∀ a ∈ p.cells.addresses, a.col ≤ n

namespace PageBuild

variable (b : PageBuild)

theorem start_eq : b.start = ⟨b.id, b.rows, b.cols, Cells.empty⟩ := by
  obtain ⟨id, size?, writes⟩ := b
  cases size? <;> rfl

theorem page_id : b.page.id = b.id := by
  rw [page, Page.id_withCells, start_eq]

theorem page_cells : b.page.cells = Cells.ofList b.writes := by
  rw [page, Page.cells_withCells, start_eq]
  rfl

/-- What holds of all cells of the page holds of all that was written. -/
theorem forall_addresses_page_iff {P : Address → Prop} :
    (∀ a ∈ b.page.cells.addresses, P a) ↔ ∀ w ∈ b.writes, P w.1 := by
  rw [page_cells]
  simp only [Cells.mem_addresses_ofList]
  exact List.forall_mem_map

theorem page_isBuiltBy : b.page.IsBuiltBy b := by
  constructor
  case id => exact b.page_id
  case text?_iff =>
    intro a s
    rw [Page.text?, page_cells, Cells.get?_ofList_eq_some_iff]
  case rows_le_iff =>
    intro n
    have hstart : b.start.rows = b.rows := congrArg Page.rows b.start_eq
    rw [forall_addresses_page_iff, ← hstart]
    exact Page.rows_withCells_le_iff b.start b.writes n
  case cols_le_iff =>
    intro n
    have hstart : b.start.cols = b.cols := congrArg Page.cols b.start_eq
    rw [forall_addresses_page_iff, ← hstart]
    exact Page.cols_withCells_le_iff b.start b.writes n

-- A cell that is written to twice, and one row more than was declared.
example :
    let p := page ⟨"p", some (1, 4), [(⟨2, 1⟩, "a"), (⟨1, 3⟩, "b"), (⟨2, 1⟩, "c")]⟩
    (p.rows, p.cols, p.text? ⟨2, 1⟩) = (2, 4, some "c") := by decide

/-- A page that is built encloses its cells, because it has the rows and columns they require. -/
theorem encloses_page (h : b.Placeable) : ∀ a ∈ b.page.cells.addresses, b.page.Encloses a := by
  have hcounted : ∀ a ∈ b.page.cells.addresses, 1 ≤ a.row ∧ 1 ≤ a.col :=
    b.forall_addresses_page_iff.2 h
  have hrows := (b.page_isBuiltBy.rows_le_iff _).1 (UInt32.le_refl _)
  have hcols := (b.page_isBuiltBy.cols_le_iff _).1 (UInt32.le_refl _)
  intro a ha
  obtain ⟨hrow, hcol⟩ := hcounted a ha
  exact ⟨hrow, hcol, hrows.2 a ha, hcols.2 a ha⟩

end PageBuild

end MarkedSheet
