import MarkedSheet.Proofs.Placement.Seats

/-!
# Where placed cells come from

The start row and the columns of a plan are those of column fields on its page.  Placed cells
therefore stand on pages with column fields, in their columns, and on or below the row of one.
-/

namespace MarkedSheet

namespace Columns

theorem mem_of_cell? {columns : Columns} {role : Role} {cell : Address}
    (h : columns.cell? role = some cell) : (role, cell) ∈ columns := by
  obtain ⟨before, after, hcolumns, -⟩ := List.lookup_eq_some_iff.1 h
  rw [hcolumns]
  simp

theorem mem_inOrder_iff (columns : Columns) {role : Role} {cell : Address} :
    (role, cell) ∈ columns.inOrder ↔ columns.cell? role = some cell := by
  constructor
  · intro h
    obtain ⟨other, -, hother⟩ := List.mem_filterMap.1 h
    obtain ⟨a, ha, heq⟩ := Option.map_eq_some_iff.1 hother
    obtain ⟨rfl, rfl⟩ := Prod.mk.inj heq
    exact ha
  · intro h
    exact List.mem_filterMap.2 ⟨role, Role.mem_all role, by rw [h, Option.map_some]⟩

theorem mem_declare {columns : Columns} {role : Role} {cell : Address} {c : Role × Address}
    (h : c ∈ columns.declare role cell) : c ∈ columns ∨ c = (role, cell) := by
  rw [declare] at h
  split at h
  · exact Or.inl h
  · simpa using h

end Columns

namespace PagePlan

/-- The start row and the columns of a plan are taken from fields of its page. -/
structure DeclaredBy (fields : List Descriptor) (p : PagePlan) : Prop where
  start : ∃ d ∈ fields, d.page = p.page ∧ d.cell.row = p.startRow
  columns : ∀ c ∈ p.columns, ∃ d ∈ fields, d.page = p.page ∧ d.cell = c.2

variable {fields : List Descriptor} {plans : List PagePlan}

theorem declaredBy_declare {d : Descriptor} (hd : d ∈ fields) (role : Role)
    (h : ∀ p ∈ plans, p.DeclaredBy fields) : ∀ p ∈ declare role d plans, p.DeclaredBy fields := by
  induction plans with
  | nil =>
      intro p hp
      obtain rfl := List.mem_singleton.1 hp
      refine ⟨⟨d, hd, rfl, rfl⟩, fun c hc => ?_⟩
      obtain rfl := List.mem_singleton.1 hc
      exact ⟨d, hd, rfl, rfl⟩
  | cons q rest ih =>
      have hq := h q List.mem_cons_self
      have hrest : ∀ p ∈ rest, p.DeclaredBy fields := fun p hp => h p (List.mem_cons_of_mem _ hp)
      rw [declare]
      split
      · next hpage =>
          intro p hp
          rcases List.mem_cons.1 hp with rfl | hp
          · refine ⟨hq.start, fun c hc => ?_⟩
            rcases Columns.mem_declare hc with hc | rfl
            · exact hq.columns c hc
            · exact ⟨d, hd, hpage.symm, rfl⟩
          · exact hrest p hp
      · intro p hp
        rcases List.mem_cons.1 hp with rfl | hp
        · exact hq
        · exact ih hrest p hp

theorem declaredBy_add {d : Descriptor} (hd : d ∈ fields)
    (h : ∀ p ∈ plans, p.DeclaredBy fields) : ∀ p ∈ add plans d, p.DeclaredBy fields := by
  rw [add]
  split
  · next role _ => exact declaredBy_declare hd role h
  · exact h

theorem declaredBy_bound (e : RegionEnd) (h : ∀ p ∈ plans, p.DeclaredBy fields) :
    ∀ p ∈ bound e plans, p.DeclaredBy fields := by
  induction plans with
  | nil => exact h
  | cons q rest ih =>
      have hq := h q List.mem_cons_self
      have hrest : ∀ p ∈ rest, p.DeclaredBy fields := fun p hp => h p (List.mem_cons_of_mem _ hp)
      rw [bound]
      split
      · intro p hp
        rcases List.mem_cons.1 hp with rfl | hp
        · exact ⟨hq.start, hq.columns⟩
        · exact hrest p hp
      · intro p hp
        rcases List.mem_cons.1 hp with rfl | hp
        · exact hq
        · exact ih hrest p hp

end PagePlan

/-- The fields of a field map that declare a table column. -/
def FieldMap.columnFields (m : FieldMap) : List Descriptor :=
  m.descriptors.filter fun d => (PagePlan.columnOf? d).isSome

theorem FieldMap.openPlans_eq_foldl (m : FieldMap) :
    m.openPlans = m.columnFields.foldl PagePlan.add [] := by
  -- A field that declares no column leaves the plans as they are.
  have hadd : ∀ plans d, PagePlan.add plans d =
      if (PagePlan.columnOf? d).isSome then PagePlan.add plans d else plans := by
    intro plans d
    rw [PagePlan.add]
    cases PagePlan.columnOf? d with
    | none => rfl
    | some role => rfl
  rw [openPlans, columnFields, List.foldl_filter]
  congr 1
  funext plans d
  exact hadd plans d

/-- Every plan of a field map is declared by its column fields. -/
theorem FieldMap.declaredBy_of_mem_plans (m : FieldMap) :
    ∀ p ∈ m.plans, p.DeclaredBy m.columnFields := by
  -- Neither step makes up a row or a column, so the invariant holds along both folds.
  let declared (plans : List PagePlan) : Prop := ∀ p ∈ plans, p.DeclaredBy m.columnFields
  have hnone : declared [] := by simp [declared]
  have hopen : declared m.openPlans := by
    rw [m.openPlans_eq_foldl]
    exact List.foldlRecOn (motive := declared) m.columnFields PagePlan.add hnone
      fun _ h _ hd => PagePlan.declaredBy_add hd h
  exact List.foldlRecOn (motive := declared) m.regionEnds _ hopen
    fun _ h e _ => PagePlan.declaredBy_bound e h

namespace Placement

/-- A placed cell stands in a declared column of its page, on a row for which the page has room. -/
theorem exists_plan_of_mem_cells {items : List LineItem} {plans : List PagePlan} {c : PlacedCell}
    (h : c ∈ (ofItems items plans).cells) :
    ∃ p ∈ plans, c.page = p.page ∧
      (∃ offset, offset < p.room ∧ c.cell.row.toNat = p.startRow.toNat + offset) ∧
      ∃ column ∈ p.columns, column.1 = c.role ∧ column.2.col = c.cell.col := by
  rw [ofItems, cells_fill] at h
  obtain ⟨i, hi, hc⟩ := List.mem_flatMap.1 h
  obtain ⟨k, p, item, -, hp, -, hoffset, hcells⟩ := exists_cellsOf (List.mem_range.1 hi)
  rw [hcells] at hc
  obtain ⟨column, hcolumn, rfl⟩ := List.mem_map.1 hc
  exact ⟨p, List.mem_of_getElem? hp, rfl, ⟨_, hoffset, p.toNat_row hoffset⟩, column,
    Columns.mem_of_cell? (p.columns.mem_inOrder_iff.1 hcolumn), rfl, rfl⟩

/-- A placed cell shares its page and its column with a column field, and stands on or below the
row of a column field of this page. -/
theorem exists_fields_of_mem_cells {items : List LineItem} {m : FieldMap} {c : PlacedCell}
    (h : c ∈ (ofItems items m.plans).cells) :
    (∃ d ∈ m.columnFields, d.page = c.page ∧ d.cell.row ≤ c.cell.row) ∧
      ∃ d ∈ m.columnFields, d.page = c.page ∧ d.cell.col = c.cell.col := by
  obtain ⟨p, hp, hpage, ⟨offset, -, hrow⟩, column, hcolumn, -, hcol⟩ := exists_plan_of_mem_cells h
  have hdeclared := m.declaredBy_of_mem_plans p hp
  obtain ⟨d, hd, hdpage, hdrow⟩ := hdeclared.start
  obtain ⟨e, he, hepage, hecell⟩ := hdeclared.columns column hcolumn
  have hbelow : d.cell.row ≤ c.cell.row := by
    rw [hdrow, UInt32.le_iff_toNat_le, hrow]
    exact Nat.le_add_right _ _
  refine ⟨⟨d, hd, hdpage.trans hpage.symm, hbelow⟩, e, he, hepage.trans hpage.symm, ?_⟩
  rw [hecell, hcol]

end Placement

end MarkedSheet
