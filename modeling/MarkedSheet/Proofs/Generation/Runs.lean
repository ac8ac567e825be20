import MarkedSheet.Proofs.Generation.CellByCell

/-!
# Runs by any field map

The field map that a template is filled in by may be that of another template.  Such a run, when it
comes to an end, keeps the pages of the template, and line items show where their page is found.
-/

namespace MarkedSheet

namespace Generation

variable {ctx : Context} {t : Template} {m : FieldMap} {out : Generation}

theorem names_of_fillCells?_eq_some {grid filled : FilledGrid} {groups : List CellGroup}
    (h : fillCells? ctx grid groups = some filled) : filled.names = grid.names := by
  induction groups generalizing grid with
  | nil =>
      obtain rfl : grid = filled := Option.some.inj h
      rfl
  | cons g rest ih =>
      rw [fillCells?] at h
      split at h
      · exact ih h
      · obtain ⟨v, -, hrest⟩ := Option.bind_eq_some_iff.1 h
        have hnames : (grid.set g.page g.cell v).names = grid.names := grid.names_set ..
        exact (ih hrest).trans hnames

/-- What a run gives: the table is written last, on a grid with the pages of the template. -/
theorem of_run?_eq_some (h : run? ctx t m = some out) :
    (∃ base : FilledGrid, base.names = t.pages.map Page.id ∧
        out.grid = base.writeAll (out.placement.cells.map (tableWrite ctx.config))) ∧
      out.placement = Placement.ofItems ctx.report.lineItems m.plans ∧
        out.diagnostics = m.issues ++ m.planDiagnostics ++
          (overflowDiagnostic? out.placement ctx.report.lineItems.length).toList := by
  obtain ⟨base, hfill, rfl⟩ := Option.map_eq_some_iff.1 h
  have hnames := names_of_fillCells?_eq_some hfill
  rw [FilledGrid.names_ofTemplate] at hnames
  exact ⟨⟨base, hnames, writeTable_eq_writeAll ..⟩, rfl, rfl⟩

theorem isSome_overflowDiagnostic?_iff {placement : Placement} {items : Nat} :
    (overflowDiagnostic? placement items).isSome ↔ 0 < placement.overflow := by
  rw [overflowDiagnostic?]
  split
  · next h => simp [h]
  · next h => simp [h]

theorem category_overflowDiagnostic? {placement : Placement} {items : Nat} {d : Diagnostic}
    (h : overflowDiagnostic? placement items = some d) : d.category = .overflow := by
  rw [overflowDiagnostic?] at h
  split at h
  · obtain rfl := Option.some.inj h
    rfl
  · cases h

end Generation

end MarkedSheet
