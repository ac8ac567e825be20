import Mathlib.Data.List.Forall2
import MarkedSheet.Proofs.Compilation.Scanning
import MarkedSheet.Proofs.Compilation.TableMarks

/-!
# What the plans of a field map say

A field map may come from anywhere, so that its pages may be mixed up, a role may be declared twice
and a region may end before it begins.  On every page the first column field gives the row where the
items start, the first field of each role gives its column, and the first region end gives the room.
The region ends that leave no room are reported, and nothing else is.  In the field map of a valid
template the first column field of a page is also its topmost one.
-/

namespace MarkedSheet

namespace Descriptor

/-- Whether the field declares a column of the table. -/
def isColumn (d : Descriptor) : Bool :=
  d.kind = .detectionColumn && d.role?.isSome

/-- Whether the field marks where the table region of its page ends. -/
def isRegionEnd (d : Descriptor) : Bool :=
  d.kind = .controlMark && d.control? = some .regionEnd

def hasRole (role : Role) (d : Descriptor) : Bool :=
  d.isColumn && d.role? = some role

variable {d : Descriptor}

theorem columnOf?_eq_some_iff {role : Role} :
    PagePlan.columnOf? d = some role ↔ d.hasRole role = true := by
  unfold PagePlan.columnOf? hasRole isColumn
  split
  · next hkind =>
      simp only [hkind, decide_true, Bool.true_and, Bool.and_eq_true, decide_eq_true_eq]
      constructor
      · intro hrole
        exact ⟨by rw [hrole, Option.isSome_some], hrole⟩
      · exact And.right
  · next hkind => simp [hkind]

theorem isColumn_of_hasRole {role : Role} (h : d.hasRole role = true) : d.isColumn = true :=
  (Bool.and_eq_true_iff.1 h).1

theorem hasRole_eq_decide {role other : Role} (d : Descriptor) (h : d.hasRole role = true) :
    d.hasRole other = decide (role = other) := by
  unfold hasRole at h ⊢
  obtain ⟨hcolumn, hrole⟩ := Bool.and_eq_true_iff.1 h
  rw [decide_eq_true_iff] at hrole
  rw [hcolumn, hrole, Bool.true_and]
  simp only [Option.some.injEq]

theorem isSome_columnOf? (d : Descriptor) : (PagePlan.columnOf? d).isSome = d.isColumn := by
  unfold PagePlan.columnOf? isColumn
  split
  · next hkind => simp [hkind]
  · next hkind => simp [hkind]

theorem regionEnd_of? (d : Descriptor) :
    RegionEnd.of? d = if d.isRegionEnd then some ⟨d.page, d.cell⟩ else none := by
  unfold RegionEnd.of? isRegionEnd
  simp only [Bool.and_eq_true, decide_eq_true_eq]

end Descriptor

namespace Columns

theorem cell?_declare (columns : Columns) (role other : Role) (cell : Address) :
    (columns.declare role cell).cell? other =
      (columns.cell? other).or (if role = other then some cell else none) := by
  rw [declare]
  by_cases hrole : role = other
  · subst hrole
    cases hcell : columns.cell? role with
    | some first => simp [hcell]
    | none =>
        rw [cell?] at hcell
        simp [cell?, List.lookup_append, hcell]
  · rw [if_neg hrole, Option.or_none]
    cases columns.cell? role with
    | some first => rfl
    | none =>
        have hother : (other == role) = false := beq_false_of_ne (Ne.symm hrole)
        simp [cell?, List.lookup_append, List.lookup_cons, hother]

end Columns

namespace PagePlan

variable {plans : List PagePlan} {fields : List Descriptor} {p q : PagePlan} {d : Descriptor}
  {role : Role}

/-- A plan that takes its start row and its columns from the first of these fields. -/
structure OpenedBy (fields : List Descriptor) (p : PagePlan) : Prop where
  start : (fields.find? fun d => d.isColumn && d.page = p.page).map (fun d => d.cell.row) =
    some p.startRow
  columns : ∀ role, p.columns.cell? role =
    (fields.find? fun d => d.hasRole role && d.page = p.page).map Descriptor.cell
  unbounded : p.capacity = .unbounded

/-- A declaration changes the plan of its page, or makes one if there is none. -/
theorem mem_declare (h : (plans.map PagePlan.page).Nodup) (hp : p ∈ declare role d plans) :
    (p ∈ plans ∧ p.page ≠ d.page) ∨
      (∃ q ∈ plans, q.page = d.page ∧ p = { q with columns := q.columns.declare role d.cell }) ∨
        (d.page ∉ plans.map PagePlan.page ∧
          p = ⟨d.page, d.cell.row, .unbounded, [(role, d.cell)]⟩) := by
  induction plans with
  | nil => exact Or.inr (Or.inr ⟨List.not_mem_nil, List.mem_singleton.1 hp⟩)
  | cons q rest ih =>
      rw [List.map_cons, List.nodup_cons] at h
      rw [declare] at hp
      split at hp
      · next hpage =>
          rcases List.mem_cons.1 hp with rfl | hp
          · exact Or.inr (Or.inl ⟨q, List.mem_cons_self, hpage, rfl⟩)
          · left
            refine ⟨List.mem_cons_of_mem q hp, fun hsame => h.1 ?_⟩
            exact List.mem_map.2 ⟨p, hp, hsame.trans hpage.symm⟩
      · next hpage =>
          rcases List.mem_cons.1 hp with rfl | hp
          · exact Or.inl ⟨List.mem_cons_self, hpage⟩
          · rcases ih h.2 hp with ⟨hp, hother⟩ | ⟨s, hs, hsame, rfl⟩ | ⟨hnew, rfl⟩
            · exact Or.inl ⟨List.mem_cons_of_mem q hp, hother⟩
            · exact Or.inr (Or.inl ⟨s, List.mem_cons_of_mem q hs, hsame, rfl⟩)
            · refine Or.inr (Or.inr ⟨?_, rfl⟩)
              rw [List.map_cons, List.mem_cons, not_or]
              exact ⟨Ne.symm hpage, hnew⟩

theorem OpenedBy.start_concat (h : p.OpenedBy fields) (d : Descriptor) :
    ((fields ++ [d]).find? fun e => e.isColumn && e.page = p.page).map (fun e => e.cell.row) =
      some p.startRow := by
  rw [List.find?_append, Option.map_or, h.start, Option.some_or]

theorem OpenedBy.concat_of_ne (h : p.OpenedBy fields) (hpage : p.page ≠ d.page) :
    p.OpenedBy (fields ++ [d]) := by
  refine ⟨h.start_concat d, fun role => ?_, h.unbounded⟩
  rw [h.columns role, List.find?_append]
  simp [Ne.symm hpage]

/-- Another field of the page adds its column unless the role has one. -/
theorem OpenedBy.declare_concat (h : q.OpenedBy fields) (hpage : q.page = d.page)
    (hrole : d.hasRole role) :
    OpenedBy (fields ++ [d]) { q with columns := q.columns.declare role d.cell } := by
  refine ⟨h.start_concat d, fun other => ?_, h.unbounded⟩
  show (q.columns.declare role d.cell).cell? other = _
  rw [Columns.cell?_declare, h.columns other, List.find?_append, Option.map_or,
    List.find?_singleton, d.hasRole_eq_decide hrole]
  simp only [hpage, decide_true, Bool.and_true, decide_eq_true_eq]
  split
  · rfl
  · rfl

theorem OpenedBy.new (hnew : ∀ e ∈ fields, e.page ≠ d.page) (hrole : d.hasRole role) :
    OpenedBy (fields ++ [d]) ⟨d.page, d.cell.row, .unbounded, [(role, d.cell)]⟩ := by
  have hnone : ∀ fits : Descriptor → Bool,
      (fields.find? fun e => fits e && e.page = d.page) = none := by
    intro fits
    rw [List.find?_eq_none]
    intro e he
    simp [hnew e he]
  refine ⟨?_, fun other => ?_, rfl⟩
  · have hcolumn := Descriptor.isColumn_of_hasRole hrole
    simp [List.find?_append, hnone, hcolumn]
  · rw [List.find?_append, hnone, Option.none_or, List.find?_singleton, d.hasRole_eq_decide hrole]
    by_cases hother : role = other
    · simp [Columns.cell?, hother]
    · have hbeq : (other == role) = false := beq_false_of_ne (Ne.symm hother)
      simp [Columns.cell?, List.lookup_cons, hother, hbeq]

/-- There is room from the start row down to the end row, and none if that is not below. -/
theorem exists_roomBefore (startRow endRow : UInt32) :
    ∃ rows, roomBefore startRow endRow = .bounded rows ∧
      (startRow < endRow → startRow.toNat + rows = endRow.toNat) ∧
      (endRow ≤ startRow → rows = 0) := by
  refine ⟨endRow.toNat - startRow.toNat, rfl, ?_, ?_⟩
  · rw [UInt32.lt_iff_toNat_lt]
    omega
  · rw [UInt32.le_iff_toNat_le]
    omega

/-- Column fields open one plan for each of their pages. -/
theorem opened_foldl {fields : List Descriptor} (h : ∀ d ∈ fields, d.isColumn) :
    (fields.foldl add []).map PagePlan.page = (fields.map Descriptor.page).eraseDups ∧
      ∀ p ∈ fields.foldl add [], p.OpenedBy fields := by
  induction fields using List.reverseRecOn with
  | nil => exact ⟨rfl, fun _ hp => (List.not_mem_nil hp).elim⟩
  | append_singleton fields d ih =>
      rw [List.forall_mem_append] at h
      obtain ⟨hpages, hopened⟩ := ih h.1
      have hcolumn := h.2 d (List.mem_singleton_self d)
      rw [← d.isSome_columnOf?, Option.isSome_iff_exists] at hcolumn
      obtain ⟨role, hrole⟩ := hcolumn
      -- The last field declares its role in the plans that those before it opened.
      have hadd : (fields ++ [d]).foldl add [] = declare role d (fields.foldl add []) := by
        rw [List.foldl_append, List.foldl_cons, List.foldl_nil, add, hrole]
      rw [hadd]
      constructor
      · rw [map_page_declare, hpages, List.map_append, List.map_singleton, eraseDups_concat]
        simp only [List.mem_eraseDups]
      · intro p hp
        have hdistinct := hpages ▸ nodup_eraseDups (fields.map Descriptor.page)
        have hhas := Descriptor.columnOf?_eq_some_iff.1 hrole
        rcases mem_declare hdistinct hp with ⟨hp, hother⟩ | ⟨q, hq, hpage, rfl⟩ | ⟨hnew, rfl⟩
        · exact (hopened p hp).concat_of_ne hother
        · exact (hopened q hq).declare_concat hpage hhas
        · refine OpenedBy.new (fun e he hpage => hnew ?_) hhas
          rw [hpages, List.mem_eraseDups]
          exact List.mem_map.2 ⟨e, he, hpage⟩

end PagePlan

namespace FieldMap

variable (m : FieldMap)

/-- The pages with fields of some sort, in the order of their first ones. -/
def pagesWith (sort : Descriptor → Bool) : List String :=
  ((m.descriptors.filter sort).map Descriptor.page).eraseDups

/-- The first field of some sort on a page. -/
def firstOn? (sort : Descriptor → Bool) (page : String) : Option Descriptor :=
  m.descriptors.find? fun d => sort d && d.page = page

/-- The first region end of each page, in the order of these. -/
def firstEnds : List Descriptor :=
  (m.pagesWith Descriptor.isRegionEnd).filterMap (m.firstOn? Descriptor.isRegionEnd)

theorem of_firstOn?_eq_some {m : FieldMap} {sort : Descriptor → Bool} {page : String}
    {d : Descriptor} (h : m.firstOn? sort page = some d) :
    d ∈ m.descriptors ∧ sort d = true ∧ d.page = page := by
  rw [firstOn?] at h
  have hd := List.find?_some h
  rw [Bool.and_eq_true, decide_eq_true_iff] at hd
  exact ⟨List.mem_of_find?_eq_some h, hd⟩

theorem columnFields_eq_filter : m.columnFields = m.descriptors.filter Descriptor.isColumn := by
  rw [columnFields]
  exact List.filter_congr fun d _ => d.isSome_columnOf?

theorem map_page_openPlans :
    m.openPlans.map PagePlan.page = m.pagesWith Descriptor.isColumn := by
  rw [openPlans_eq_foldl, columnFields_eq_filter]
  exact (PagePlan.opened_foldl fun d hd => (List.mem_filter.1 hd).2).1

theorem map_page_plans : m.plans.map PagePlan.page = m.openPlans.map PagePlan.page := by
  rw [plans_eq_map, List.map_map]
  refine List.map_congr_left fun p _ => ?_
  exact p.endedBy_page (m.endOf? p.page)

theorem nodup_plans : (m.plans.map PagePlan.page).Nodup :=
  m.map_page_plans ▸ m.nodup_openPlans

theorem map_page_regionEnds :
    m.regionEnds.map RegionEnd.page = m.pagesWith Descriptor.isRegionEnd := by
  rw [regionEnds, pagesWith]
  induction m.descriptors using List.reverseRecOn with
  | nil => rfl
  | append_singleton fields d ih =>
      rw [List.foldl_append, List.foldl_cons, List.foldl_nil, RegionEnd.add, d.regionEnd_of?,
        List.filter_append, List.map_append]
      by_cases hend : d.isRegionEnd
      · -- It comes in unless its page has a region end already.
        have hseen : ((fields.foldl RegionEnd.add []).any fun e => e.page = d.page) ↔
            d.page ∈ (fields.filter Descriptor.isRegionEnd).map Descriptor.page := by
          rw [← List.mem_eraseDups, ← ih, List.mem_map, List.any_eq_true]
          simp only [decide_eq_true_eq]
        rw [if_pos hend, List.filter_cons_of_pos hend, List.filter_nil, List.map_singleton,
          eraseDups_concat, ← ih]
        simp only [hseen]
        split
        · rfl
        · rw [List.map_append, List.map_singleton]
      · rw [if_neg hend, List.filter_cons_of_neg hend, List.filter_nil, List.map_nil,
          List.append_nil]
        exact ih

theorem endOf?_eq (page : String) :
    m.endOf? page =
      (m.firstOn? Descriptor.isRegionEnd page).map fun d => ⟨d.page, d.cell⟩ := by
  rw [endOf?, firstOn?, List.find?_filterMap]
  have hfits : (fun d => (RegionEnd.of? d).any fun e => decide (e.page = page)) =
      fun d : Descriptor => d.isRegionEnd && d.page = page := by
    funext d
    rw [d.regionEnd_of?]
    cases d.isRegionEnd <;> rfl
  rw [hfits]
  cases hfound : m.descriptors.find? fun d => d.isRegionEnd && d.page = page with
  | none => rfl
  | some d =>
      have hend := (of_firstOn?_eq_some hfound).2.1
      show RegionEnd.of? d = some _
      rw [d.regionEnd_of?, if_pos hend]

theorem regionEnds_eq_map :
    m.regionEnds = m.firstEnds.map fun d => ⟨d.page, d.cell⟩ := by
  rw [← filterMap_find?_of_nodup m.nodup_regionEnds, map_page_regionEnds, firstEnds,
    List.map_filterMap]
  refine List.filterMap_congr fun page _ => ?_
  rw [find?_regionEnds, endOf?_eq]

/-- A plan is right for its page: the first column field gives the start row, the first field of a
role its column, and the first region end the room. -/
structure PlannedBy (p : PagePlan) : Prop where
  start : ∃ d, m.firstOn? Descriptor.isColumn p.page = some d ∧ p.startRow = d.cell.row
  columns : ∀ role,
    p.columns.cell? role = (m.firstOn? (Descriptor.hasRole role) p.page).map Descriptor.cell
  unbounded : m.firstOn? Descriptor.isRegionEnd p.page = none → p.capacity = .unbounded
  /-- There is room from the start row down to the region end, and none if that is not below. -/
  bounded : ∀ e, m.firstOn? Descriptor.isRegionEnd p.page = some e →
    ∃ rows, p.capacity = .bounded rows ∧
      (p.startRow < e.cell.row → p.startRow.toNat + rows = e.cell.row.toNat) ∧
      (e.cell.row ≤ p.startRow → rows = 0)

theorem find?_columnFields (sort : Descriptor → Bool) (page : String)
    (hsort : ∀ d : Descriptor, sort d = true → d.isColumn = true) :
    (m.columnFields.find? fun d => sort d && d.page = page) = m.firstOn? sort page := by
  rw [columnFields_eq_filter, List.find?_filter, firstOn?]
  congr 1
  funext d
  cases hd : sort d with
  | true => simp [hsort d hd]
  | false => simp

theorem openedBy_of_mem_openPlans {p : PagePlan} (hp : p ∈ m.openPlans) :
    p.OpenedBy m.columnFields := by
  have hcolumns : ∀ d ∈ m.columnFields, d.isColumn = true := by
    intro d hd
    rw [columnFields_eq_filter] at hd
    exact (List.mem_filter.1 hd).2
  rw [openPlans_eq_foldl] at hp
  exact (PagePlan.opened_foldl hcolumns).2 p hp

theorem plannedBy_of_mem_plans {p : PagePlan} (hp : p ∈ m.plans) : m.PlannedBy p := by
  rw [plans_eq_map] at hp
  obtain ⟨q, hq, rfl⟩ := List.mem_map.1 hp
  obtain ⟨hstart, hcolumns, hunbounded⟩ := m.openedBy_of_mem_openPlans hq
  rw [m.find?_columnFields Descriptor.isColumn q.page fun _ => id] at hstart
  obtain ⟨d, hd, hrow⟩ := Option.map_eq_some_iff.1 hstart
  have hroles : ∀ role, q.columns.cell? role =
      (m.firstOn? (Descriptor.hasRole role) q.page).map Descriptor.cell := by
    intro role
    rw [hcolumns role, m.find?_columnFields _ q.page fun _ => Descriptor.isColumn_of_hasRole]
  rw [m.endOf?_eq]
  cases hend : m.firstOn? Descriptor.isRegionEnd q.page with
  | none =>
      refine ⟨⟨d, hd, hrow.symm⟩, hroles, fun _ => hunbounded, fun e he => ?_⟩
      exact absurd (hend.symm.trans he) (Option.some_ne_none e).symm
  | some e =>
      refine ⟨⟨d, hd, hrow.symm⟩, hroles, fun hnone => ?_, fun f hf => ?_⟩
      · exact absurd (hend.symm.trans hnone) (Option.some_ne_none e)
      · obtain rfl := Option.some.inj (hend.symm.trans hf)
        exact PagePlan.exists_roomBefore q.startRow e.cell.row

/-- What is reported about the first region end of a page by these plans. -/
inductive Reports (plans : List PagePlan) (e : Descriptor) : Diagnostic → Prop where
  | tableless (h : ∀ p ∈ plans, p.page ≠ e.page) :
      Reports plans e (.located .regionEnd e.page e.cell
        "region-end marker on a page without table columns is ignored")
  | roomless {p : PagePlan} (hp : p ∈ plans) (hpage : p.page = e.page)
      (h : e.cell.row ≤ p.startRow) :
      Reports plans e (.located .regionEnd e.page e.cell
        ("region-end marker at row " ++ toString e.cell.row.toNat ++
          " is not below the table header at row " ++ toString p.startRow.toNat ++
          "; page holds no items"))

/-- A region end that leaves room to a plan of its page. -/
def LeavesRoom (plans : List PagePlan) (e : Descriptor) : Prop :=
  ∃ p ∈ plans, p.page = e.page ∧ p.startRow < e.cell.row

instance (plans : List PagePlan) (e : Descriptor) : Decidable (LeavesRoom plans e) :=
  inferInstanceAs (Decidable (∃ p ∈ plans, _))

theorem diagnostic?_plans (e : RegionEnd) :
    RegionEnd.diagnostic? m.openPlans e = RegionEnd.diagnostic? m.plans e := by
  have hpage : ((fun p : PagePlan => decide (p.page = e.page)) ∘
      fun p : PagePlan => p.endedBy (m.endOf? p.page)) = fun p => decide (p.page = e.page) := by
    funext p
    simp
  unfold RegionEnd.diagnostic?
  rw [plans_eq_map, List.find?_map, hpage]
  cases m.openPlans.find? fun p => p.page = e.page with
  | none => rfl
  | some p =>
      simp only [Option.map_some]
      cases m.endOf? p.page <;> rfl

theorem reports_of_diagnostic? {plans : List PagePlan} {d : Descriptor} {report : Diagnostic}
    (h : RegionEnd.diagnostic? plans ⟨d.page, d.cell⟩ = some report) : Reports plans d report := by
  unfold RegionEnd.diagnostic? at h
  cases hfound : plans.find? fun p => p.page = d.page with
  | none =>
      simp only [hfound, Option.some.injEq] at h
      subst h
      exact .tableless fun p hp => by simpa using List.find?_eq_none.1 hfound p hp
  | some p =>
      simp only [hfound] at h
      have hpage := List.find?_some hfound
      rw [decide_eq_true_iff] at hpage
      split at h
      · cases h
      · next hnot =>
          obtain rfl := Option.some.inj h
          exact .roomless (List.mem_of_find?_eq_some hfound) hpage (UInt32.not_lt.1 hnot)

theorem isSome_diagnostic? {plans : List PagePlan} (h : (plans.map PagePlan.page).Nodup)
    (d : Descriptor) :
    (RegionEnd.diagnostic? plans ⟨d.page, d.cell⟩).isSome = decide (¬ LeavesRoom plans d) := by
  unfold RegionEnd.diagnostic? LeavesRoom
  cases hfound : plans.find? fun p => p.page = d.page with
  | none =>
      rw [List.find?_eq_none] at hfound
      have hnone : ¬ ∃ p ∈ plans, p.page = d.page ∧ p.startRow < d.cell.row := by
        rintro ⟨p, hp, hpage, -⟩
        exact hfound p hp (decide_eq_true hpage)
      simp only [hnone, not_false_iff, decide_true, Option.isSome_some]
  | some p =>
      have hp := List.mem_of_find?_eq_some hfound
      have hpage := List.find?_some hfound
      rw [decide_eq_true_iff] at hpage
      -- The plan that is found is the only one of its page.
      have honly : (∃ q ∈ plans, q.page = d.page ∧ q.startRow < d.cell.row) ↔
          p.startRow < d.cell.row := by
        constructor
        · rintro ⟨q, hq, hqpage, hroom⟩
          rwa [List.inj_on_of_nodup_map h hp hq (hpage.trans hqpage.symm)]
        · exact fun hroom => ⟨p, hp, hpage, hroom⟩
      simp only [honly]
      split
      · next hroom => simp [hroom]
      · next hroom => simp [hroom]

theorem planDiagnostics_eq_filterMap :
    m.planDiagnostics =
      m.firstEnds.filterMap fun d => RegionEnd.diagnostic? m.plans ⟨d.page, d.cell⟩ := by
  rw [planDiagnostics, regionEnds_eq_map, List.filterMap_map]
  exact List.filterMap_congr fun d _ => m.diagnostic?_plans ⟨d.page, d.cell⟩

/-- The plans of a field map and the reports that come with them. -/
structure Planned : Prop where
  /-- The pages with column fields have a plan each, in the order of their first ones. -/
  pages : m.plans.map PagePlan.page = m.pagesWith Descriptor.isColumn
  plans : ∀ p ∈ m.plans, m.PlannedBy p
  /-- The region ends that leave no room are reported one by one. -/
  reports : List.Forall₂ (Reports m.plans)
    (m.firstEnds.filter fun e => ¬ LeavesRoom m.plans e) m.planDiagnostics
  /-- A valid template has its plans in the order of its pages, each from the topmost column marker
  of its page on. -/
  compiled : ∀ (t : Template) (r : Registry), t.validate = .ok t → m = (t.compile r).fieldMap →
    (m.plans.map PagePlan.page).Sublist (t.pages.map Page.id) ∧
      ∀ p ∈ m.plans, (∃ a, t.MarkedAt r Marker.IsColumn p.page a ∧ p.startRow = a.row) ∧
        ∀ a, t.MarkedAt r Marker.IsColumn p.page a → p.startRow ≤ a.row

end FieldMap

namespace Template

variable {t : Template} {r : Registry}

theorem Valid.sublist_pages (h : t.Valid) (r : Registry) :
    ((t.fieldMap r).pagesWith Descriptor.isColumn).Sublist (t.pages.map Page.id) := by
  refine eraseDups_sublist_of_ordered h.distinct (fun page hpage => ?_) ?_
  · obtain ⟨d, hd, rfl⟩ := List.mem_map.1 hpage
    obtain ⟨c, hc, hdpage, -⟩ := exists_textCell_of_mem_descriptors (List.mem_filter.1 hd).1
    rw [hdpage]
    exact page_mem_of_mem_textCells hc
  · refine List.pairwise_map.2 ?_
    refine ((pairwise_precedes h.distinct r).sublist List.filter_sublist).imp fun {d e} hde => ?_
    rcases hde with hpages | ⟨hpage, -⟩
    · exact Nat.le_of_lt hpages
    · rw [hpage]

/-- The first column field of a page is that of its topmost column marker. -/
theorem Valid.topmost (h : t.Valid) {page : String} {d : Descriptor}
    (hd : (t.fieldMap r).firstOn? Descriptor.isColumn page = some d) :
    t.MarkedAt r Marker.IsColumn page d.cell ∧
      ∀ a, t.MarkedAt r Marker.IsColumn page a → d.cell.row ≤ a.row := by
  obtain ⟨hmem, hcolumn, hpage⟩ := FieldMap.of_firstOn?_eq_some hd
  constructor
  · rw [← hpage]
    apply markedAt_of_mem_columnFields
    rw [FieldMap.columnFields_eq_filter]
    exact List.mem_filter.2 ⟨hmem, hcolumn⟩
  · rintro a ⟨c, hc, rfl, rfl, m, hm, hmcolumn⟩
    let e := m.describe c.page c.cell c.text
    have he : e ∈ (t.fieldMap r).descriptors := mem_descriptors_iff.2 ⟨c, hc, m, hm, rfl⟩
    have hecell : e.cell = c.cell := Marker.describe_cell ..
    have hepage : e.page = c.page := Marker.describe_page ..
    have hfits : (e.isColumn && decide (e.page = c.page)) = true := by
      refine Bool.and_eq_true_iff.2 ⟨?_, decide_eq_true hepage⟩
      rw [← Descriptor.isSome_columnOf?]
      exact (Marker.isSome_columnOf?_describe ..).2 hmcolumn
    rw [← hecell]
    rcases eq_or_rel_of_find? (h.pairwise_descriptors r) hd he hfits with rfl | hbelow
    · exact UInt32.le_refl _
    · exact hbelow (hpage.trans hepage.symm)

end Template

/-- What a partial function makes of a list goes with those elements that it is defined on. -/
theorem forall₂_filter_filterMap {α β : Type} {R : α → β → Prop} {fits : α → Bool}
    {f : α → Option β} {l : List α}
    (hfits : ∀ a ∈ l, (f a).isSome = fits a) (hrel : ∀ a ∈ l, ∀ b, f a = some b → R a b) :
    List.Forall₂ R (l.filter fits) (l.filterMap f) := by
  induction l with
  | nil => exact List.Forall₂.nil
  | cons a rest ih =>
      have hrest := ih (fun b hb => hfits b (List.mem_cons_of_mem a hb))
        fun b hb => hrel b (List.mem_cons_of_mem a hb)
      have ha := hfits a List.mem_cons_self
      cases hfa : f a with
      | none =>
          rw [hfa, Option.isSome_none] at ha
          rwa [List.filter_cons_of_neg (by simp [← ha]), List.filterMap_cons_none hfa]
      | some b =>
          rw [hfa, Option.isSome_some] at ha
          rw [List.filter_cons_of_pos ha.symm, List.filterMap_cons_some hfa]
          exact List.Forall₂.cons (hrel a List.mem_cons_self b hfa) hrest

/-- Whatever a field map holds, its plans say what its first fields say. -/
theorem FieldMap.plans_planned (m : FieldMap) : m.Planned := by
  constructor
  case pages => rw [map_page_plans, map_page_openPlans]
  case plans => exact fun p hp => m.plannedBy_of_mem_plans hp
  case reports =>
    have hdistinct : (m.plans.map PagePlan.page).Nodup := m.map_page_plans ▸ m.nodup_openPlans
    rw [planDiagnostics_eq_filterMap]
    exact forall₂_filter_filterMap (fun d _ => isSome_diagnostic? hdistinct d)
      fun d _ report hreport => reports_of_diagnostic? hreport
  case compiled =>
    intro t r hvalidate hm
    have hvalid : t.Valid := Template.validate_eq_ok_iff.1 hvalidate
    subst hm
    constructor
    · rw [map_page_plans, map_page_openPlans]
      exact hvalid.sublist_pages r
    · intro p hp
      obtain ⟨d, hd, hrow⟩ := (FieldMap.plannedBy_of_mem_plans _ hp).start
      obtain ⟨hmarked, hleast⟩ := hvalid.topmost hd
      rw [hrow]
      exact ⟨⟨d.cell, hmarked, rfl⟩, hleast⟩

-- A table that begins below the end of its region has no room.
example :
    let page := ((Page.new "p").withCell ⟨1, 1⟩ "[#dt_end]").withCell ⟨2, 1⟩ "[#dt_name]"
    ((Template.mk "t" [page]).fieldMap Registry.standard).plans =
      [⟨"p", 2, .bounded 0, [(.name, ⟨2, 1⟩)]⟩] := by
  decide

end MarkedSheet
