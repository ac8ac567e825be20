import MarkedSheet.Proofs.Generation.Replacing
import MarkedSheet.Proofs.Placement.Origins
import MarkedSheet.Registry.Standard

/-!
# Filled grids, cell by cell

The run of a compiled template writes the cells with markers and then the table cells, each onto the
texts of the template.  A cell therefore shows its last table cell if there is one, or else what its
markers make of it, or else its text.
-/

namespace MarkedSheet

/-- The last cell of a placement at an address. -/
def Placement.last? (placement : Placement) (page : String) (a : Address) : Option PlacedCell :=
  (placement.cells.filter fun c => c.page = page && c.cell = a).getLast?

/-- What a table cell shows: the text of a method is broken into lines when that is asked for, and
any other value is kept. -/
inductive PlacedCell.Shows (config : Config) (c : PlacedCell) : Value → Prop where
  | split {method : String} (hrole : c.role = .method) (hvalue : c.value = .text method)
      (hsplit : config.splitMethods = true) : Shows config c (.text (MethodText.split method))
  | kept (h : ¬ (c.role = .method ∧ (∃ method, c.value = .text method) ∧
      config.splitMethods = true)) : Shows config c c.value

theorem PlacedCell.shows_formatted (c : PlacedCell) (config : Config) :
    c.Shows config (c.formatted config) := by
  rw [formatted.eq_def]
  split
  · next method hrole hvalue =>
      split
      · next hsplit => exact .split hrole hvalue hsplit
      · next hsplit => exact .kept fun h => hsplit h.2.2
  · next hother => exact .kept fun ⟨hrole, ⟨method, hvalue⟩, _⟩ => hother method hrole hvalue

namespace Generation

variable {ctx : Context} {t : Template}

def groupWrite (ctx : Context) (g : CellGroup) : CellWrite :=
  ⟨g.page, g.cell, (cellValue? ctx g).getD .empty⟩

/-- The writes that fill the cells with markers of a template. -/
def fieldWrites (ctx : Context) (t : Template) : List CellWrite :=
  (t.fieldMap ctx.registry).cells.map (groupWrite ctx)

def tableWrite (config : Config) (c : PlacedCell) : CellWrite :=
  ⟨c.page, c.cell, c.formatted config⟩

theorem fillCells?_eq_some {grid : FilledGrid} {groups : List CellGroup}
    (hpages : ∀ g ∈ groups, g.page ∈ grid.names)
    (hvalues : ∀ g ∈ groups, (cellValue? ctx g).isSome) :
    fillCells? ctx grid groups = some (grid.writeAll (groups.map (groupWrite ctx))) := by
  induction groups generalizing grid with
  | nil => rfl
  | cons g rest ih =>
      have hg := hpages g List.mem_cons_self
      obtain ⟨page, hpage⟩ := Option.isSome_iff_exists.1 (FilledGrid.page?_isSome_iff.2 hg)
      obtain ⟨v, hv⟩ := Option.isSome_iff_exists.1 (hvalues g List.mem_cons_self)
      have hnames : (grid.set g.page g.cell v).names = grid.names := grid.names_set ..
      have hrest : fillCells? ctx (grid.set g.page g.cell v) rest =
          some ((grid.set g.page g.cell v).writeAll (rest.map (groupWrite ctx))) :=
        ih (fun g hg => hnames ▸ hpages g (List.mem_cons_of_mem _ hg))
          fun g hg => hvalues g (List.mem_cons_of_mem _ hg)
      rw [fillCells?, hpage, hv]
      change fillCells? ctx (grid.set g.page g.cell v) rest = _
      rw [hrest, List.map_cons, groupWrite, hv]
      rfl

theorem writeTable_eq_writeAll (config : Config) (grid : FilledGrid) (cells : List PlacedCell) :
    writeTable config grid cells = grid.writeAll (cells.map (tableWrite config)) := by
  rw [writeTable, FilledGrid.writeAll, List.foldl_map]
  rfl

theorem last?_tableWrites (config : Config) (placement : Placement) (page : String) (a : Address) :
    CellWrite.last? (placement.cells.map (tableWrite config)) page a =
      (placement.last? page a).map (tableWrite config) := by
  rw [CellWrite.last?, List.filter_map, List.getLast?_map]
  rfl

/-- A table cell that no later one is written over shows on the grid. -/
theorem value?_tableWrites_of_some {placement : Placement} {page : String} {a : Address}
    {c : PlacedCell} (h : placement.last? page a = some c) {grid : FilledGrid}
    (hname : page ∈ grid.names) (config : Config) :
    (grid.writeAll (placement.cells.map (tableWrite config))).value? page a =
      some (c.formatted config) := by
  rw [FilledGrid.value?_writeAll, last?_tableWrites, h]
  exact if_pos hname

theorem value?_tableWrites_of_none {placement : Placement} {page : String} {a : Address}
    (h : placement.last? page a = none) (grid : FilledGrid) (config : Config) :
    (grid.writeAll (placement.cells.map (tableWrite config))).value? page a =
      grid.value? page a := by
  rw [FilledGrid.value?_writeAll, last?_tableWrites, h]
  rfl

/-- The write for a filled cell with markers. -/
theorem mem_fieldWrites_iff (h : t.Valid) {w : CellWrite} :
    w ∈ fieldWrites ctx t ↔ ∃ c ∈ t.textCells, c.markers ctx.registry ≠ [] ∧
      w = groupWrite ctx (c.group ctx.registry) := by
  rw [fieldWrites, Template.cells_fieldMap h.distinct]
  constructor
  · intro hw
    obtain ⟨g, hg, rfl⟩ := List.mem_map.1 hw
    obtain ⟨c, hc, rfl⟩ := List.mem_map.1 hg
    obtain ⟨hc, hmarkers⟩ := List.mem_filter.1 hc
    exact ⟨c, hc, by simpa using hmarkers, rfl⟩
  · rintro ⟨c, hc, hmarkers, rfl⟩
    refine List.mem_map_of_mem (List.mem_map_of_mem (List.mem_filter.2 ⟨hc, ?_⟩))
    simpa using hmarkers

/-- The grid of a template with its cells filled. -/
def filled (ctx : Context) (t : Template) : FilledGrid :=
  (FilledGrid.ofTemplate t ctx.report.id).writeAll (fieldWrites ctx t)

theorem names_filled (ctx : Context) (t : Template) :
    (filled ctx t).names = t.pages.map Page.id := by
  rw [filled, FilledGrid.names_writeAll, FilledGrid.names_ofTemplate]

/-- A run of a compiled template succeeds: it fills the cells and then writes the table. -/
theorem run?_fieldMap (h : t.Valid) (ctx : Context) :
    ∃ out, run? ctx t (t.fieldMap ctx.registry) = some out ∧
      out.placement = Placement.ofItems ctx.report.lineItems (t.fieldMap ctx.registry).plans ∧
        out.grid = (filled ctx t).writeAll (out.placement.cells.map (tableWrite ctx.config)) := by
  have hfill : fillCells? ctx (FilledGrid.ofTemplate t ctx.report.id)
      (t.fieldMap ctx.registry).cells = some (filled ctx t) := by
    refine fillCells?_eq_some (fun g hg => ?_) fun g hg => ?_
    · rw [Template.cells_fieldMap h.distinct] at hg
      obtain ⟨c, hc, rfl⟩ := List.mem_map.1 hg
      rw [FilledGrid.names_ofTemplate]
      exact Template.page_mem_of_mem_textCells (List.mem_filter.1 hc).1
    · rw [Template.cells_fieldMap h.distinct] at hg
      obtain ⟨c, -, rfl⟩ := List.mem_map.1 hg
      exact isSome_cellValue?_group ctx ctx.registry c
  rw [run?, hfill]
  exact ⟨_, rfl, rfl, writeTable_eq_writeAll ..⟩

/-- A cell with markers shows the value of its group. -/
theorem value?_filled_of_markers (h : t.Valid) {page : String} {a : Address} {text : String}
    (htext : t.text? page a = some text)
    (hmarkers : TextCell.markers ctx.registry ⟨page, a, text⟩ ≠ []) :
    (filled ctx t).value? page a =
      cellValue? ctx (TextCell.group ctx.registry ⟨page, a, text⟩) := by
  let c : TextCell := ⟨page, a, text⟩
  have hc : c ∈ t.textCells := h.text?_eq_some_iff.1 htext
  have hname : page ∈ (FilledGrid.ofTemplate t ctx.report.id).names := by
    rw [FilledGrid.names_ofTemplate]
    exact Template.page_mem_of_mem_textCells hc
  have hwrite : groupWrite ctx (c.group ctx.registry) ∈ fieldWrites ctx t :=
    (mem_fieldWrites_iff h).2 ⟨c, hc, hmarkers, rfl⟩
  rw [filled, FilledGrid.value?_writeAll]
  cases hlast : CellWrite.last? (fieldWrites ctx t) page a with
  | none => exact absurd ⟨rfl, rfl⟩ (CellWrite.last?_eq_none_iff.1 hlast _ hwrite)
  | some w =>
      -- Any write to this place is the one for this cell, since no other cell is there.
      obtain ⟨hw, hwpage, hwcell⟩ := CellWrite.of_last?_eq_some hlast
      obtain ⟨d, hd, -, rfl⟩ := (mem_fieldWrites_iff h).1 hw
      obtain ⟨dpage, dcell, dtext⟩ := d
      obtain rfl : dpage = page := hwpage
      obtain rfl : dcell = a := hwcell
      have hdtext := h.text?_eq_some_iff.2 hd
      obtain rfl : text = dtext := Option.some.inj (htext.symm.trans hdtext)
      obtain ⟨v, hv⟩ := Option.isSome_iff_exists.1 (isSome_cellValue?_group ctx ctx.registry c)
      simp only [groupWrite]
      rw [if_pos hname, hv]
      rfl

theorem value?_filled_of_any (h : t.Valid) {page : String} {a : Address} {text : String}
    (htext : t.text? page a = some text)
    (hany : (TextCell.markers ctx.registry ⟨page, a, text⟩).any Marker.isTableMark) :
    (filled ctx t).value? page a = some .empty := by
  obtain ⟨m, hm, -⟩ := List.any_eq_true.1 hany
  rw [value?_filled_of_markers h htext (List.ne_nil_of_mem hm)]
  exact cellValue?_group_of_any hany

theorem exists_value_filled_of_not_any (h : t.Valid) {page : String} {a : Address} {text : String}
    (htext : t.text? page a = some text)
    (hany : ¬ (TextCell.markers ctx.registry ⟨page, a, text⟩).any Marker.isTableMark)
    (hmarkers : TextCell.markers ctx.registry ⟨page, a, text⟩ ≠ []) :
    ∃ v, Substitution.compose? text.toList (TextCell.replacements ctx ⟨page, a, text⟩) = some v ∧
      (filled ctx t).value? page a = some v := by
  obtain ⟨v, hv⟩ := Option.isSome_iff_exists.1
    (isSome_cellValue?_group ctx ctx.registry ⟨page, a, text⟩)
  have hcompose := cellValue?_group_of_not_any (c := ⟨page, a, text⟩) hany
  refine ⟨v, hcompose.symm.trans hv, ?_⟩
  rw [value?_filled_of_markers h htext hmarkers, hv]

/-- Where no marker stands, the text of the template shows, or nothing where there is none. -/
theorem value?_filled_of_no_markers (h : t.Valid) {page : String} {a : Address}
    (hmarkers : ∀ text, t.text? page a = some text →
      TextCell.markers ctx.registry ⟨page, a, text⟩ = []) :
    (filled ctx t).value? page a = (t.text? page a).map Value.text := by
  have hlast : CellWrite.last? (fieldWrites ctx t) page a = none := by
    refine CellWrite.last?_eq_none_iff.2 fun w hw hat => ?_
    obtain ⟨c, hc, hcmarkers, rfl⟩ := (mem_fieldWrites_iff h).1 hw
    obtain ⟨cpage, ccell, ctext⟩ := c
    obtain rfl : cpage = page := hat.1
    obtain rfl : ccell = a := hat.2
    exact hcmarkers (hmarkers ctext (h.text?_eq_some_iff.2 hc))
  rw [filled, FilledGrid.value?_writeAll, hlast]
  exact FilledGrid.value?_ofTemplate t ctx.report.id page a

/-- Table cells stand on pages of the template, and their rows and columns count from 1. -/
theorem of_mem_cells (h : t.Valid) {items : List LineItem} {c : PlacedCell}
    (hc : c ∈ (Placement.ofItems items (t.fieldMap ctx.registry).plans).cells) :
    c.page ∈ t.pages.map Page.id ∧ 1 ≤ c.cell.row ∧ 1 ≤ c.cell.col := by
  obtain ⟨⟨d, hd, hdpage, hdrow⟩, e, he, -, hecol⟩ := Placement.exists_fields_of_mem_cells hc
  obtain ⟨x, hx, hxpage, hxcell⟩ :=
    Template.exists_textCell_of_mem_descriptors (List.mem_of_mem_filter hd)
  obtain ⟨y, hy, -, hycell⟩ :=
    Template.exists_textCell_of_mem_descriptors (List.mem_of_mem_filter he)
  have hpage : c.page = x.page := hdpage.symm.trans hxpage
  have hrow : 1 ≤ d.cell.row := hxcell ▸ (h.one_le_of_mem hx).1
  have hcol : 1 ≤ e.cell.col := hycell ▸ (h.one_le_of_mem hy).2
  refine ⟨?_, UInt32.le_trans hrow hdrow, hecol ▸ hcol⟩
  rw [hpage]
  exact Template.page_mem_of_mem_textCells hx

theorem enclosed_filled (h : t.Valid) (ctx : Context) : (filled ctx t).Enclosed := by
  refine FilledGrid.enclosed_writeAll (FilledGrid.enclosed_ofTemplate h _) fun w hw => ?_
  obtain ⟨c, hc, -, rfl⟩ := (mem_fieldWrites_iff h).1 hw
  exact h.one_le_of_mem hc

/-- What each cell of a filled grid shows.  A table cell comes before a table mark, a table mark
before the values of other markers, and these before the text of the template. -/
structure Decided (ctx : Context) (t : Template) (out : Generation) : Prop where
  names : out.grid.names = t.pages.map Page.id
  placement : out.placement =
    Placement.ofItems ctx.report.lineItems (t.compile ctx.registry).fieldMap.plans
  /-- A table cell shows the last item placed there, on whatever stood in the cell. -/
  placed : ∀ page a c, out.placement.last? page a = some c →
    ∃ v, c.Shows ctx.config v ∧ out.grid.value? page a = some v
  /-- A table mark never leaks: its cell is empty. -/
  cleared : ∀ page a text, out.placement.last? page a = none → t.text? page a = some text →
    (∃ m ∈ TextCell.markers ctx.registry ⟨page, a, text⟩, m.isTableMark) →
      out.grid.value? page a = some .empty
  /-- The other markers of a cell give way to their values, in the order of the text. -/
  composed : ∀ page a text, out.placement.last? page a = none → t.text? page a = some text →
    (∀ m ∈ TextCell.markers ctx.registry ⟨page, a, text⟩, ¬ m.isTableMark) →
      TextCell.markers ctx.registry ⟨page, a, text⟩ ≠ [] →
        (TextCell.markers ctx.registry ⟨page, a, text⟩).Pairwise
            (fun m n => m.span.start < n.span.start) ∧
          ∃ v, Substitution.compose? text.toList
              (TextCell.replacements ctx ⟨page, a, text⟩) = some v ∧
            out.grid.value? page a = some v
  literal : ∀ page a text, out.placement.last? page a = none → t.text? page a = some text →
    TextCell.markers ctx.registry ⟨page, a, text⟩ = [] →
      out.grid.value? page a = some (.text text)
  absent : ∀ page a, out.placement.last? page a = none → t.text? page a = none →
    out.grid.value? page a = none
  enclosed : out.grid.Enclosed

/-- The field map of a valid template fills it without fail, and each cell as its text and the line
items decide. -/
theorem run?_compile_decided (ctx : Context) (t : Template) (h : t.validate = .ok t) :
    ∃ out, run? ctx t (t.compile ctx.registry).fieldMap = some out ∧ out.Decided ctx t := by
  have hvalid : t.Valid := Template.validate_eq_ok_iff.1 h
  obtain ⟨out, hrun, hplacement, hgrid⟩ := run?_fieldMap hvalid ctx
  have hcells : ∀ c ∈ out.placement.cells,
      c.page ∈ (filled ctx t).names ∧ 1 ≤ c.cell.row ∧ 1 ≤ c.cell.col := by
    intro c hc
    rw [hplacement] at hc
    rw [names_filled]
    exact of_mem_cells hvalid hc
  -- Where no table cell was written, the grid is as it was before.
  have hbelow {page : String} {a : Address} (hnone : out.placement.last? page a = none) :
      out.grid.value? page a = (filled ctx t).value? page a := by
    rw [hgrid, value?_tableWrites_of_none hnone]
  refine ⟨out, hrun, ?_⟩
  constructor
  case names => rw [hgrid, FilledGrid.names_writeAll, names_filled]
  case placement => exact hplacement
  case placed =>
    intro page a c hlast
    obtain ⟨hc, hat⟩ := List.mem_filter.1 (List.mem_of_getLast? hlast)
    simp only [Bool.and_eq_true, decide_eq_true_eq] at hat
    have hname : page ∈ (filled ctx t).names := hat.1 ▸ (hcells c hc).1
    refine ⟨c.formatted ctx.config, c.shows_formatted ctx.config, ?_⟩
    rw [hgrid, value?_tableWrites_of_some hlast hname]
  case cleared =>
    intro page a text hnone htext hmark
    rw [hbelow hnone, value?_filled_of_any hvalid htext (List.any_eq_true.2 hmark)]
  case composed =>
    intro page a text hnone htext hplain hmarkers
    have hany : ¬ (TextCell.markers ctx.registry ⟨page, a, text⟩).any Marker.isTableMark := by
      rw [List.any_eq_true]
      rintro ⟨m, hm, hmark⟩
      exact hplain m hm hmark
    rw [hbelow hnone]
    exact ⟨(Reading.pairwise_markers _ _).imp And.left,
      exists_value_filled_of_not_any hvalid htext hany hmarkers⟩
  case literal =>
    intro page a text hnone htext hmarkers
    rw [hbelow hnone, value?_filled_of_no_markers hvalid, htext]
    · rfl
    · intro other hother
      obtain rfl : text = other := Option.some.inj (htext.symm.trans hother)
      exact hmarkers
  case absent =>
    intro page a hnone htext
    rw [hbelow hnone, value?_filled_of_no_markers hvalid, htext]
    · rfl
    · intro text hsome
      rw [htext] at hsome
      exact absurd hsome.symm (Option.some_ne_none text)
  case enclosed =>
    rw [hgrid]
    refine FilledGrid.enclosed_writeAll (enclosed_filled hvalid ctx) fun w hw => ?_
    obtain ⟨c, hc, rfl⟩ := List.mem_map.1 hw
    exact (hcells c hc).2

/-- A page with fields, a table of two columns and a text in the row below it. -/
def siteTemplate : Template :=
  ⟨"sites", [(((((Page.new "site").withCell ⟨1, 1⟩ "Site [name];(where)").withCell ⟨1, 2⟩
    "seen by [#sampler] for [*client]").withCell ⟨2, 1⟩ "[#dt_index]").withCell ⟨2, 2⟩
      "[#dt_name] of [name]").withCell ⟨3, 2⟩ "none"]⟩

/-- A report with more items than the page has rows without growing. -/
def siteContext : Context :=
  ⟨Registry.standard,
    { Report.new "r1" with lineItems := [.named "lead", .named "iron", .named "zinc"] },
    History.ofReports [], Config.standard⟩

theorem siteTemplate_decided :
    siteTemplate.validate = .ok siteTemplate ∧
      ∃ out, run? siteContext siteTemplate
          (siteTemplate.compile siteContext.registry).fieldMap = some out ∧
        out.Decided siteContext siteTemplate :=
  ⟨by decide, run?_compile_decided siteContext siteTemplate (by decide)⟩

end Generation

end MarkedSheet
