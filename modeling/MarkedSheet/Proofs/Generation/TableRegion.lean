import MarkedSheet.Proofs.Compilation.TableMarks
import MarkedSheet.Proofs.Generation.CellByCell

/-!
# What line items can change

The table region of a page has the columns of its column markers and the rows from the topmost of
them down to the row above the topmost region end.  Line items are written there and nowhere else,
so that a run with the items of a report and a run without them agree on all other cells.
-/

namespace MarkedSheet

/-- A cell of the table region of a page. -/
structure Template.InTable (t : Template) (r : Registry) (page : String) (a : Address) : Prop where
  column : ∃ b, t.MarkedAt r Marker.IsColumn page b ∧ b.col = a.col
  below : ∃ b, t.MarkedAt r Marker.IsColumn page b ∧ b.row ≤ a.row
  above : ∀ b, t.MarkedAt r Marker.IsRegionEnd page b → a.row < b.row

theorem Template.Valid.inTable_of_mem_cells {t : Template} (h : t.Valid) {r : Registry}
    {items : List LineItem} {c : PlacedCell}
    (hc : c ∈ (Placement.ofItems items (t.fieldMap r).plans).cells) :
    t.InTable r c.page c.cell := by
  obtain ⟨⟨d, hd, hdpage, hdrow⟩, e, he, hepage, hecol⟩ := Placement.exists_fields_of_mem_cells hc
  have hdmark := markedAt_of_mem_columnFields hd
  have hemark := markedAt_of_mem_columnFields he
  rw [hdpage] at hdmark
  rw [hepage] at hemark
  refine ⟨⟨e.cell, hemark, hecol⟩, ⟨d.cell, hdmark, hdrow⟩, fun b hb => ?_⟩
  obtain ⟨first, hfirst, htop⟩ := h.exists_endOf? hb
  exact UInt32.lt_of_lt_of_le (Placement.row_lt_of_endOf? hc hfirst) htop

/-- A page whose region end is not below any of its column markers has no table region. -/
theorem Template.InTable.false_of_closed {t : Template} {r : Registry} {page : String}
    {a b : Address} (h : t.InTable r page b) (ha : t.MarkedAt r Marker.IsRegionEnd page a)
    (hclosed : ∀ c, t.MarkedAt r Marker.IsColumn page c → a.row ≤ c.row) : False := by
  obtain ⟨c, hc, hrow⟩ := h.below
  have hlow : a.row ≤ b.row := UInt32.le_trans (hclosed c hc) hrow
  exact UInt32.lt_irrefl b.row (UInt32.lt_of_lt_of_le (h.above a ha) hlow)

/-- Cells of the table region lie within the grid of a page with a region end. -/
theorem Template.Valid.le_of_inTable {t : Template} (h : t.Valid) {r : Registry} {p : Page}
    (hp : p ∈ t.pages) {a b : Address} (ha : t.MarkedAt r Marker.IsRegionEnd p.id a)
    (hb : t.InTable r p.id b) : b.row ≤ p.rows ∧ b.col ≤ p.cols := by
  have hinside : ∀ sort c, t.MarkedAt r sort p.id c → c.row ≤ p.rows ∧ c.col ≤ p.cols := by
    rintro sort c ⟨x, hx, hpage, rfl, -⟩
    have hcontains := h.contains_of_mem hx hp hpage
    simp only [Page.contains, Bool.and_eq_true, decide_eq_true_eq] at hcontains
    exact ⟨hcontains.1.2, hcontains.2⟩
  obtain ⟨c, hc, hcol⟩ := hb.column
  have hrow := UInt32.le_of_lt (hb.above a ha)
  exact ⟨UInt32.le_trans hrow (hinside _ a ha).1, hcol ▸ (hinside _ c hc).2⟩

theorem Placement.cells_ofItems_nil (plans : List PagePlan) : (ofItems [] plans).cells = [] := by
  have hplaced : (fill 0 [] plans).placed = 0 := by
    rw [placed_fill]
    exact Nat.zero_min _
  rw [ofItems, cells_fill, hplaced]
  rfl

namespace Generation

def Context.withoutItems (ctx : Context) : Context :=
  { ctx with report := { ctx.report with lineItems := [] } }

/-- Fields take nothing from line items. -/
theorem replacement_withoutItems (ctx : Context) (d : Descriptor) :
    replacement ctx.withoutItems d = replacement ctx d := by
  have hresolve : d.resolve ctx.withoutItems.registry ctx.withoutItems.report
      ctx.withoutItems.history = d.resolve ctx.registry ctx.report ctx.history := by
    rw [Descriptor.resolve, Descriptor.resolve]
    cases d.kind <;> rfl
  rw [replacement, hresolve]
  rfl

theorem filled_withoutItems (ctx : Context) (t : Template) :
    filled ctx.withoutItems t = filled ctx t := by
  have hvalue : cellValue? ctx.withoutItems = cellValue? ctx := by
    funext g
    rw [cellValue?, cellValue?, funext (replacement_withoutItems ctx)]
  have hwrites : fieldWrites ctx.withoutItems t = fieldWrites ctx t := by
    rw [fieldWrites, fieldWrites]
    refine List.map_congr_left fun g _ => ?_
    rw [groupWrite, groupWrite, hvalue]
  rw [filled, filled, hwrites]
  rfl

/-- Filling in the fields keeps the sizes of the pages. -/
theorem exists_size_filled {t : Template} (h : t.Valid) (ctx : Context) {p : Page}
    (hp : p ∈ t.pages) :
    ∃ q, (filled ctx t).page? p.id = some q ∧ q.rows = p.rows ∧ q.cols = p.cols := by
  have hstart : (FilledGrid.ofTemplate t ctx.report.id).page? p.id = some (FilledPage.ofPage p) := by
    rw [FilledGrid.page?, FilledGrid.ofTemplate, List.find?_map]
    change (t.pages.find? fun q => q.id = p.id).map FilledPage.ofPage = _
    rw [h.find?_page hp]
    rfl
  refine FilledGrid.exists_size_writeAll (p := FilledPage.ofPage p) hstart fun w hw hpage => ?_
  obtain ⟨c, hc, -, rfl⟩ := (mem_fieldWrites_iff h).1 hw
  have hcontains := h.contains_of_mem hc hp hpage
  simp only [Page.contains, Bool.and_eq_true, decide_eq_true_eq] at hcontains
  exact ⟨hcontains.1.2, hcontains.2⟩

/-- What two runs of a template have in common, one with line items and one without them. -/
structure ConfinedToTable (t : Template) (r : Registry) (out bare : Generation) : Prop where
  elsewhere : ∀ page a, ¬ t.InTable r page a → out.grid.value? page a = bare.grid.value? page a
  /-- Items stay above all region ends of their page. -/
  above : ∀ c ∈ out.placement.cells, ∀ a, t.MarkedAt r Marker.IsRegionEnd c.page a →
    c.cell.row < a.row
  /-- A page whose region end is not below its header row is the same in both runs. -/
  closed : ∀ page a, t.MarkedAt r Marker.IsRegionEnd page a →
    (∀ b, t.MarkedAt r Marker.IsColumn page b → a.row ≤ b.row) →
      out.grid.page? page = bare.grid.page? page
  tableless : ∀ page, (∀ a, ¬ t.MarkedAt r Marker.IsColumn page a) →
    out.grid.page? page = bare.grid.page? page
  /-- A page with a region end never grows. -/
  size : ∀ p ∈ t.pages, ∀ a, t.MarkedAt r Marker.IsRegionEnd p.id a →
    (∃ q, out.grid.page? p.id = some q ∧ q.rows = p.rows ∧ q.cols = p.cols) ∧
      ∃ q, bare.grid.page? p.id = some q ∧ q.rows = p.rows ∧ q.cols = p.cols

/-- Line items change nothing outside the table regions of the pages. -/
theorem run?_compile_confined (ctx : Context) (t : Template) (h : t.validate = .ok t) :
    ∃ out bare, run? ctx t (t.compile ctx.registry).fieldMap = some out ∧
      run? ctx.withoutItems t (t.compile ctx.registry).fieldMap = some bare ∧
        ConfinedToTable t ctx.registry out bare := by
  have hvalid : t.Valid := Template.validate_eq_ok_iff.1 h
  obtain ⟨out, hrun, hplacement, hgrid⟩ := run?_fieldMap hvalid ctx
  obtain ⟨bare, hbareRun, hbarePlacement, hbareGrid⟩ := run?_fieldMap hvalid ctx.withoutItems
  have hnone : bare.placement.cells = [] := by
    rw [hbarePlacement]
    exact Placement.cells_ofItems_nil _
  replace hbareGrid : bare.grid = filled ctx t := by
    rw [hbareGrid, hnone, filled_withoutItems]
    rfl
  have htable : ∀ c ∈ out.placement.cells, t.InTable ctx.registry c.page c.cell := by
    intro c hc
    rw [hplacement] at hc
    exact hvalid.inTable_of_mem_cells hc
  -- All that the items write is in the table region of its page.
  have hwrites : ∀ w ∈ out.placement.cells.map (tableWrite ctx.config),
      t.InTable ctx.registry w.page w.cell := by
    intro w hw
    obtain ⟨c, hc, rfl⟩ := List.mem_map.1 hw
    exact htable c hc
  have hpage : ∀ page, (∀ a, ¬ t.InTable ctx.registry page a) →
      out.grid.page? page = bare.grid.page? page := by
    intro page hempty
    rw [hgrid, hbareGrid]
    refine FilledGrid.page?_writeAll_of_forall_ne fun w hw hwpage => ?_
    exact hempty w.cell (hwpage ▸ hwrites w hw)
  refine ⟨out, bare, hrun, hbareRun, ?_⟩
  constructor
  case elsewhere =>
    intro page a houtside
    have hlast : CellWrite.last? (out.placement.cells.map (tableWrite ctx.config)) page a =
        none := by
      refine CellWrite.last?_eq_none_iff.2 fun w hw hat => ?_
      obtain ⟨rfl, rfl⟩ := hat
      exact houtside (hwrites w hw)
    rw [hgrid, hbareGrid, FilledGrid.value?_writeAll, hlast]
  case above =>
    intro c hc a ha
    exact (htable c hc).above a ha
  case closed =>
    intro page a ha hclosed
    exact hpage page fun b hb => hb.false_of_closed ha hclosed
  case tableless =>
    intro page hcolumns
    refine hpage page fun b hb => ?_
    obtain ⟨c, hc, -⟩ := hb.column
    exact hcolumns c hc
  case size =>
    intro p hp a ha
    obtain ⟨q, hq, hrows, hcols⟩ := exists_size_filled hvalid ctx hp
    have hinside : ∀ w ∈ out.placement.cells.map (tableWrite ctx.config), w.page = p.id →
        w.cell.row ≤ q.rows ∧ w.cell.col ≤ q.cols := by
      intro w hw hwpage
      rw [hrows, hcols]
      exact hvalid.le_of_inTable hp ha (hwpage ▸ hwrites w hw)
    obtain ⟨q', hq', hrows', hcols'⟩ := FilledGrid.exists_size_writeAll hq hinside
    refine ⟨⟨q', ?_, hrows'.trans hrows, hcols'.trans hcols⟩, q, ?_, hrows, hcols⟩
    · rw [hgrid]
      exact hq'
    · rw [hbareGrid]
      exact hq

/-- Two columns that start on different rows, two region ends, and below them a footer; a second
page closes its table above the header, and a third one has none. -/
def benchTemplate : Template :=
  ⟨"bench", [(((((Page.new "bench").withCell ⟨2, 1⟩ "[#dt_index]").withCell ⟨3, 2⟩
      "[#dt_name]").withCell ⟨4, 3⟩ "[#dt_end]").withCell ⟨5, 1⟩ "[#dt_end]").withCell ⟨6, 1⟩
        "checked by [#sampler]",
    ((Page.new "closed").withCell ⟨1, 2⟩ "[#dt_end]").withCell ⟨2, 1⟩ "[#dt_name]",
    (Page.new "notes").withCell ⟨1, 1⟩ "[#remark]"]⟩

theorem benchTemplate_confined :
    benchTemplate.validate = .ok benchTemplate ∧
      ∃ out bare, run? siteContext benchTemplate
          (benchTemplate.compile siteContext.registry).fieldMap = some out ∧
        run? siteContext.withoutItems benchTemplate
          (benchTemplate.compile siteContext.registry).fieldMap = some bare ∧
        ConfinedToTable benchTemplate siteContext.registry out bare :=
  ⟨by decide, run?_compile_confined siteContext benchTemplate (by decide)⟩

end Generation

end MarkedSheet
