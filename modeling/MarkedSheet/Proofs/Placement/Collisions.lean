import MarkedSheet.Proofs.Placement.Origins
import MarkedSheet.Proofs.Placement.Plans

/-!
# Cells that are written over

No two plans of a field map are of the same page, and no two items on a page stand on the same row.
Two placed cells can therefore meet only when they belong to one item, and they do so exactly where
the page of the item has two roles in one column.  The rows of the column markers have no say in it:
what an item writes into the column of a role stands on the row of the item.
-/

namespace MarkedSheet

/-- Placed cells at different places. -/
def PlacedCell.Apart (c d : PlacedCell) : Prop :=
  ¬ (c.page = d.page ∧ c.cell = d.cell)

/-- Among cells at different places, each one is alone at its own. -/
theorem PlacedCell.filter_eq_singleton {cells : List PlacedCell} (h : cells.Pairwise Apart)
    {c : PlacedCell} (hc : c ∈ cells) :
    (cells.filter fun d => d.page = c.page && d.cell = c.cell) = [c] := by
  have hcells : (cells.filter fun d => d.page = c.page && d.cell = c.cell) =
      cells.flatMap fun d => [d].filter fun d => d.page = c.page && d.cell = c.cell := by
    rw [← List.filter_flatMap, List.flatMap_singleton']
  rw [hcells, flatMap_eq_of_pairwise h hc]
  · simp
  · intro d happart
    have hne : ¬ (d.page = c.page ∧ d.cell = c.cell) := fun hat =>
      happart.elim (fun h => h ⟨hat.1.symm, hat.2.symm⟩) fun h => h hat
    simpa using hne

namespace Columns

variable (columns : Columns)

/-- No role is listed twice. -/
theorem pairwise_inOrder : columns.inOrder.Pairwise fun c d => c.1 ≠ d.1 := by
  have hroles : Role.all.Pairwise fun role other => role ≠ other := by decide
  refine hroles.filterMap _ fun role other hne c hc d hd => ?_
  obtain ⟨a, -, rfl⟩ := Option.map_eq_some_iff.1 hc
  obtain ⟨b, -, rfl⟩ := Option.map_eq_some_iff.1 hd
  exact hne

end Columns

namespace PagePlan

variable {plans : List PagePlan} {p q : PagePlan} {i k : Nat}

/-- Two roles of the page have the same column. -/
def SharesColumn (p : PagePlan) : Prop :=
  ∃ role other a b, role ≠ other ∧
    p.columns.cell? role = some a ∧ p.columns.cell? other = some b ∧ a.col = b.col

theorem sharesColumn_iff :
    p.SharesColumn ↔
      ∃ c ∈ p.columns.inOrder, ∃ d ∈ p.columns.inOrder, c.1 ≠ d.1 ∧ c.2.col = d.2.col := by
  constructor
  · rintro ⟨role, other, a, b, hne, ha, hb, hcol⟩
    exact ⟨(role, a), p.columns.mem_inOrder_iff.2 ha, (other, b), p.columns.mem_inOrder_iff.2 hb,
      hne, hcol⟩
  · rintro ⟨c, hc, d, hd, hne, hcol⟩
    exact ⟨c.1, d.1, c.2, d.2, hne, p.columns.mem_inOrder_iff.1 hc,
      p.columns.mem_inOrder_iff.1 hd, hcol⟩

instance (p : PagePlan) : Decidable p.SharesColumn :=
  decidable_of_iff _ p.sharesColumn_iff.symm

/-- One of so many items at least falls to a page. -/
def Receives (plans : List PagePlan) (items k : Nat) : Prop :=
  ∃ i < items, FallsTo plans i k

/-- The cells of one item are at different places exactly when the columns of its page differ. -/
theorem pairwise_row_iff (p : PagePlan) (offset index : Nat) (item : LineItem) :
    (p.row offset index item).Pairwise PlacedCell.Apart ↔ ¬ p.SharesColumn := by
  -- On one row of one page the column alone decides.
  have hcolumns : (p.row offset index item).Pairwise PlacedCell.Apart ↔
      p.columns.inOrder.Pairwise fun c d => c.2.col ≠ d.2.col := by
    rw [row, List.pairwise_map]
    refine iff_of_eq (congrArg (List.Pairwise · p.columns.inOrder) ?_)
    funext c d
    simp [PlacedCell.Apart, Address.withRow]
  rw [hcolumns, sharesColumn_iff]
  constructor
  · rintro h ⟨c, hc, d, hd, hne, hcol⟩
    have : Std.Symm fun c d : Role × Address => c.2.col ≠ d.2.col := ⟨fun _ _ h => h.symm⟩
    exact h.forall hc hd (fun heq => hne (congrArg Prod.fst heq)) hcol
  · intro h
    exact p.columns.pairwise_inOrder.imp_of_mem fun {c d} hc hd hne hcol =>
      h ⟨c, hc, d, hd, hne, hcol⟩

theorem mem_row_place {offset index : Nat} {item : LineItem} {c : PlacedCell}
    (h : c ∈ p.row offset index item) (hoffset : offset < p.room) :
    c.page = p.page ∧ c.cell.row.toNat = p.startRow.toNat + offset := by
  obtain ⟨column, -, rfl⟩ := List.mem_map.1 h
  exact ⟨rfl, p.toNat_row hoffset⟩

/-- Plans of different pages are found by their pages. -/
theorem eq_of_page_eq (h : (plans.map PagePlan.page).Nodup) {j : Nat} (hp : plans[k]? = some p)
    (hq : plans[j]? = some q) (hpage : p.page = q.page) : k = j ∧ p = q := by
  have hlt : k < (plans.map PagePlan.page).length := by
    rw [List.length_map]
    exact (List.getElem?_eq_some_iff.1 hp).1
  have hkj : k = j := by
    refine (List.getElem?_inj hlt h).1 ?_
    rw [List.getElem?_map, List.getElem?_map, hp, hq, Option.map_some, Option.map_some, hpage]
  subst hkj
  exact ⟨rfl, Option.some.inj (hp.symm.trans hq)⟩

/-- An item that falls to a page is among those for which there is room. -/
theorem FallsTo.lt_totalRoom (h : FallsTo plans i k) : i < totalRoom plans := by
  have hmono := totalRoom_take_mono plans (Nat.le_max_left (k + 1) plans.length)
  rw [List.take_of_length_le (Nat.le_max_right (k + 1) plans.length)] at hmono
  exact Nat.lt_of_lt_of_le h.2 hmono

end PagePlan

namespace Placement

variable {items : List LineItem} {plans : List PagePlan}

theorem lt_placed_of_fallsTo {i k : Nat} (h : PagePlan.FallsTo plans i k)
    (hi : i < items.length) : i < (ofItems items plans).placed := by
  rw [ofItems, placed_fill]
  exact Nat.lt_min.2 ⟨hi, h.lt_totalRoom⟩

/-- Cells of different items are at different places. -/
theorem apart_of_ne (h : (plans.map PagePlan.page).Nodup) {i j : Nat} (hne : i ≠ j)
    (hi : i < (ofItems items plans).placed) (hj : j < (ofItems items plans).placed)
    {c d : PlacedCell} (hc : c ∈ cellsOf items plans 0 i) (hd : d ∈ cellsOf items plans 0 j) :
    c.Apart d := by
  rintro ⟨hpage, hcell⟩
  obtain ⟨k, p, item, hfalls, hp, -, hroom, hcells⟩ := exists_cellsOf hi
  obtain ⟨l, q, other, hfalls', hq, -, hroom', hcells'⟩ := exists_cellsOf hj
  rw [hcells] at hc
  rw [hcells'] at hd
  obtain ⟨hcpage, hcrow⟩ := PagePlan.mem_row_place hc hroom
  obtain ⟨hdpage, hdrow⟩ := PagePlan.mem_row_place hd hroom'
  obtain ⟨rfl, rfl⟩ :=
    PagePlan.eq_of_page_eq h hp hq (hcpage.symm.trans (hpage.trans hdpage))
  -- Both items fall to one page, where the row tells how many were placed before.
  have hlow := hfalls.1
  have hlow' := hfalls'.1
  rw [hcell] at hcrow
  omega

/-- No cells of a placement meet exactly when no page that receives an item shares a column. -/
theorem pairwise_cells_iff (h : (plans.map PagePlan.page).Nodup) :
    (ofItems items plans).cells.Pairwise PlacedCell.Apart ↔
      ∀ k p, plans[k]? = some p → PagePlan.Receives plans items.length k →
        ¬ p.SharesColumn := by
  have hcells : (ofItems items plans).cells =
      (List.range (ofItems items plans).placed).flatMap (cellsOf items plans 0) :=
    cells_fill 0 items plans
  rw [hcells, List.pairwise_flatMap]
  constructor
  · rintro ⟨hrows, -⟩ k p hp ⟨i, hi, hfalls⟩
    have hplaced := lt_placed_of_fallsTo hfalls hi
    have hrow := hrows i (List.mem_range.2 hplaced)
    obtain ⟨l, q, item, hfalls', hq, -, -, hcells'⟩ := exists_cellsOf hplaced
    obtain rfl := hfalls.unique hfalls'
    obtain rfl := Option.some.inj (hp.symm.trans hq)
    rw [hcells'] at hrow
    exact (p.pairwise_row_iff ..).1 hrow
  · intro hshares
    constructor
    · intro i hi
      obtain ⟨k, p, item, hfalls, hp, hitem, -, hcells'⟩ := exists_cellsOf (List.mem_range.1 hi)
      rw [hcells']
      refine (p.pairwise_row_iff ..).2 (hshares k p hp ⟨i, ?_, hfalls⟩)
      exact (List.getElem?_eq_some_iff.1 hitem).1
    · refine List.pairwise_lt_range.imp_of_mem fun {i j} hi hj hij c hc d hd => ?_
      exact apart_of_ne h (Nat.ne_of_lt hij) (List.mem_range.1 hi) (List.mem_range.1 hj) hc hd

/-- Two entries of a placement are for the same cell. -/
def Collides (out : Placement) : Prop :=
  ∃ (i j : Nat) (c d : PlacedCell), i ≠ j ∧ out.cells[i]? = some c ∧ out.cells[j]? = some d ∧
    c.page = d.page ∧ c.cell = d.cell

theorem collides_iff_not_pairwise (out : Placement) :
    out.Collides ↔ ¬ out.cells.Pairwise PlacedCell.Apart := by
  constructor
  · rintro ⟨i, j, c, d, hne, hc, hd, hpage, hcell⟩ hpairwise
    obtain ⟨hi, rfl⟩ := List.getElem?_eq_some_iff.1 hc
    obtain ⟨hj, rfl⟩ := List.getElem?_eq_some_iff.1 hd
    rw [List.pairwise_iff_getElem] at hpairwise
    rcases Nat.lt_or_gt_of_ne hne with hlt | hlt
    · exact hpairwise i j hi hj hlt ⟨hpage, hcell⟩
    · exact hpairwise j i hj hi hlt ⟨hpage.symm, hcell.symm⟩
  · intro h
    by_contra hnone
    refine h (List.pairwise_iff_getElem.2 fun i j hi hj hij hat => hnone ?_)
    exact ⟨i, j, _, _, Nat.ne_of_lt hij, List.getElem?_eq_getElem hi,
      List.getElem?_eq_getElem hj, hat⟩

/-- By the plans of a field map, cells are written over exactly when a page that receives an item has
two roles in one column.  Where the roles of every page have columns of their own, each entry is the
only one for its cell. -/
theorem collides_iff_sharesColumn (items : List LineItem) (m : FieldMap) :
    ((ofItems items m.plans).Collides ↔
        ∃ k p, m.plans[k]? = some p ∧ PagePlan.Receives m.plans items.length k ∧
          p.SharesColumn) ∧
      ((∀ p ∈ m.plans, ¬ p.SharesColumn) → ∀ c ∈ (ofItems items m.plans).cells,
        ((ofItems items m.plans).cells.filter fun d => d.page = c.page && d.cell = c.cell) =
          [c]) := by
  have hpairwise := @pairwise_cells_iff items m.plans m.nodup_plans
  constructor
  · rw [collides_iff_not_pairwise, hpairwise]
    simp only [not_forall, not_not, exists_prop]
  · intro hapart c hc
    refine PlacedCell.filter_eq_singleton (hpairwise.2 fun k p hp _ => ?_) hc
    exact hapart p (List.mem_of_getElem? hp)

/-- A field map whose columns are declared on different rows of one page and on one row of another. -/
def staggeredMap : FieldMap :=
  (Template.mk "t"
    [((Page.new "p").withCell ⟨2, 1⟩ "[#dt_name]").withCell ⟨1, 2⟩ "[#dt_unit]",
      (Page.new "q").withCell ⟨4, 1⟩ "[#dt_name]"]).fieldMap Registry.standard

theorem staggeredMap_filter_eq_singleton :
    (∀ p ∈ staggeredMap.plans, ¬ p.SharesColumn) ∧
      ∀ c ∈ (ofItems [.named "lead", .named "zinc"] staggeredMap.plans).cells,
        ((ofItems [.named "lead", .named "zinc"] staggeredMap.plans).cells.filter fun d =>
          d.page = c.page && d.cell = c.cell) = [c] :=
  ⟨by decide, (collides_iff_sharesColumn _ staggeredMap).2 (by decide)⟩

end Placement

end MarkedSheet
