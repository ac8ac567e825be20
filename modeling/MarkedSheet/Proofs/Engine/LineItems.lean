import MarkedSheet.Proofs.Engine.Requests
import MarkedSheet.Proofs.Generation.Runs

/-!
# Line items in the reports of an engine

Every item of a report is counted, either as placed or as one without room.  An item that is placed
shows when its page is in the template.  A field map that is kept when its template is replaced may
have plans for pages that are gone; the items placed there are counted as placed and show nowhere.
-/

namespace MarkedSheet

/-- The pages that a field map has plans for are among those of the template it comes from. -/
theorem Template.page_mem_of_mem_cells {t : Template} {r : Registry} {items : List LineItem}
    {c : PlacedCell} (hc : c ∈ (Placement.ofItems items (t.fieldMap r).plans).cells) :
    c.page ∈ t.pages.map Page.id := by
  obtain ⟨⟨d, hd, hdpage, -⟩, -⟩ := Placement.exists_fields_of_mem_cells hc
  obtain ⟨x, hx, hxpage, -⟩ := exists_textCell_of_mem_descriptors (List.mem_of_mem_filter hd)
  have hpage : c.page = x.page := hdpage.symm.trans hxpage
  rw [hpage]
  exact page_mem_of_mem_textCells hx

/-- A page of a filled report shows what was placed on it, in each cell the last that was placed
there. -/
def FilledReport.ShowsPlaced (out : FilledReport) (config : Config) (page : String) : Prop :=
  ∀ a c, out.placement.last? page a = some c →
    ∃ v, c.Shows config v ∧ out.grid.value? page a = some v

namespace Engine

variable {e : Engine} {id report : String} {out : FilledReport}

structure ItemsAccounted (config : Config) (e : Engine) (id : String) (t : Template) (r : Report)
    (out : FilledReport) : Prop where
  counted : out.placement.placed + out.placement.overflow = r.lineItems.length
  shown : ∀ page ∈ t.pages.map Page.id, out.ShowsPlaced config page
  /-- A page that is not in the template is not in the grid either. -/
  lost : ∀ page, page ∉ t.pages.map Page.id → out.grid.page? page = none
  /-- Items are lost only by a field map that is kept from another template. -/
  complete : e.UpToDate id t → ∀ c ∈ out.placement.cells,
    c.page ∈ t.pages.map Page.id ∧ out.ShowsPlaced config c.page

theorem itemsAccounted (hout : (e.generate id report).1 = .ok out) :
    ∃ t r, e.store.template id = .ok t ∧ e.store.report report = .ok r ∧
      ItemsAccounted e.config e id t r out := by
  rcases e.generate_cases id report with ⟨t, r, ht, hr, hgenerate⟩ | ⟨reason, hrefused⟩
  · rw [hgenerate] at hout
    obtain ⟨g, hrun, hdeliver⟩ := exists_of_fill_eq_ok hout
    obtain ⟨hgrid, hplacement, -⟩ := of_deliver_eq_ok hdeliver
    obtain ⟨⟨base, hbase, htable⟩, hplaced, -⟩ := Generation.of_run?_eq_some hrun
    rw [← hgrid, ← hplacement] at htable
    rw [← hplacement] at hplaced
    have hnames : out.grid.names = t.pages.map Page.id := by
      rw [htable, FilledGrid.names_writeAll, hbase]
    have hshown : ∀ page ∈ t.pages.map Page.id, out.ShowsPlaced e.config page := by
      intro page hpage a c hlast
      have hvalue := Generation.value?_tableWrites_of_some hlast (hbase ▸ hpage) e.config
      refine ⟨c.formatted e.config, c.shows_formatted e.config, ?_⟩
      rw [htable]
      exact hvalue
    refine ⟨t, r, ht, hr, ?_⟩
    constructor
    case counted =>
      have hoverflow := Placement.overflow_fill 0 r.lineItems (e.mapFor id t).plans
      have hroom := Placement.placed_fill 0 r.lineItems (e.mapFor id t).plans
      rw [hplaced]
      change (Placement.fill 0 r.lineItems (e.mapFor id t).plans).placed +
        (Placement.fill 0 r.lineItems (e.mapFor id t).plans).overflow = r.lineItems.length
      omega
    case shown => exact hshown
    case lost =>
      intro page hpage
      rw [← hnames, ← FilledGrid.page?_isSome_iff] at hpage
      simpa using hpage
    case complete =>
      -- The plans are those of the template itself, and so are their pages.
      intro hmap c hc
      rw [hplaced, hmap.mapFor_eq] at hc
      have hpage := Template.page_mem_of_mem_cells hc
      exact ⟨hpage, hshown c.page hpage⟩
  · rw [hrefused] at hout
    cases hout

/-- Every item is counted, and the items placed on pages of the template are all there. -/
theorem run_itemsAccounted (registry : Registry) (config : Config) (converter? : Option Converter)
    (requests : List Request) (id report : String) (out : FilledReport)
    (hout : (((starting registry config converter?).run requests).generate id report).1 =
      .ok out) :
    ∃ t r, ((starting registry config converter?).run requests).store.template id = .ok t ∧
      ((starting registry config converter?).run requests).store.report report = .ok r ∧
        ItemsAccounted config ((starting registry config converter?).run requests) id t r out := by
  obtain ⟨t, r, ht, hr, hitems⟩ := itemsAccounted hout
  rw [config_run] at hitems
  exact ⟨t, r, ht, hr, hitems⟩

/-- A template with a table, which is compiled and then replaced by one on another page. -/
def replacedRequests : List Request :=
  [.insertTemplate ⟨"t", [(Page.new "p").withCell ⟨1, 1⟩ "[#dt_name]"]⟩, .compile "t",
    .insertTemplate ⟨"t", [(Page.new "q").withCell ⟨1, 1⟩ "x"]⟩,
    .insertReport { Report.new "r" with lineItems := [.named "lead"] }]

def replaced : Engine :=
  (starting Registry.standard Config.standard none).run replacedRequests

/-- The filled report of the replaced template, on which the item that was placed is lost. -/
def lossyReport : FilledReport :=
  { grid := FilledGrid.ofTemplate ⟨"t", [(Page.new "q").withCell ⟨1, 1⟩ "x"]⟩ "r"
    placement := ⟨[⟨"p", ⟨1, 1⟩, .name, .text "lead"⟩], 1, 0⟩
    diagnostics := []
    artifact? := none }

theorem generate_replaced : (replaced.generate "t" "r").1 = .ok lossyReport := by
  decide +kernel

/-- The item is counted as placed and its cell has no page to stand on. -/
theorem replaced_losesItem :
    ∃ out, (replaced.generate "t" "r").1 = .ok out ∧ out.placement.placed = 1 ∧
      ∃ c ∈ out.placement.cells, out.grid.page? c.page = none := by
  refine ⟨lossyReport, generate_replaced, rfl, ⟨"p", ⟨1, 1⟩, .name, .text "lead"⟩, ?_, ?_⟩
  · exact List.mem_singleton_self _
  · rfl

theorem replaced_itemsAccounted :
    (replaced.generate "t" "r").1 = .ok lossyReport ∧
      ∃ t r, replaced.store.template "t" = .ok t ∧ replaced.store.report "r" = .ok r ∧
        ItemsAccounted Config.standard replaced "t" t r lossyReport :=
  ⟨generate_replaced, run_itemsAccounted Registry.standard Config.standard none replacedRequests
    "t" "r" lossyReport generate_replaced⟩

end Engine

end MarkedSheet
