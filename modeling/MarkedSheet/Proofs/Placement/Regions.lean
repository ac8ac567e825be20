import Mathlib.Data.List.Nodup
import MarkedSheet.Proofs.Placement.Origins

/-!
# Where table regions end

The plans of a field map are its open plans, each of them bounded by the first region end of its
page.  Further region ends of a page count for nothing, and no two plans share a page.  Placed cells
therefore stand above the first region end of their page.
-/

namespace MarkedSheet

namespace RegionEnd

theorem find?_add (ends : List RegionEnd) (d : Descriptor) (page : String) :
    ((add ends d).find? fun e => e.page = page) =
      ((ends ++ (of? d).toList).find? fun e => e.page = page) := by
  rw [add]
  cases of? d with
  | none => simp
  | some e =>
      rw [Option.toList_some, List.find?_append]
      by_cases hseen : ends.any fun f => f.page = e.page
      · obtain ⟨f, hf, hfe⟩ := List.any_eq_true.1 hseen
        rw [decide_eq_true_iff] at hfe
        simp only [hseen, if_true]
        cases hfound : ends.find? fun e => e.page = page with
        | some g => rfl
        | none =>
            -- The page of `e` has an end already, so `page` is another one.
            have hother : ¬ e.page = page := by
              intro hpage
              have hnot := List.find?_eq_none.1 hfound f hf
              simp [hfe, hpage] at hnot
            simp [hother]
      · simp only [hseen]
        rw [if_neg Bool.false_ne_true, List.find?_append]

theorem nodup_add {ends : List RegionEnd} (h : (ends.map RegionEnd.page).Nodup) (d : Descriptor) :
    ((add ends d).map RegionEnd.page).Nodup := by
  rw [add]
  cases of? d with
  | none => exact h
  | some e =>
      by_cases hseen : ends.any fun f => f.page = e.page
      · simpa only [hseen, if_true] using h
      · have hnew : e.page ∉ ends.map RegionEnd.page := by
          intro hmem
          obtain ⟨f, hf, hfe⟩ := List.mem_map.1 hmem
          exact hseen (List.any_eq_true.2 ⟨f, hf, decide_eq_true hfe⟩)
        simp only [hseen]
        rw [if_neg Bool.false_ne_true, List.map_append]
        refine List.Nodup.append h (List.nodup_singleton e.page) ?_
        rwa [List.map_singleton, List.disjoint_singleton]

end RegionEnd

namespace PagePlan

/-- A plan with the room above a region end, when there is one. -/
def endedBy (p : PagePlan) : Option RegionEnd → PagePlan
  | some e => { p with capacity := roomBefore p.startRow e.cell.row }
  | none => p

@[simp]
theorem endedBy_page (p : PagePlan) (e? : Option RegionEnd) : (p.endedBy e?).page = p.page := by
  cases e? <;> rfl

/-- A new page comes in at the end. -/
theorem map_page_declare (role : Role) (d : Descriptor) (plans : List PagePlan) :
    (declare role d plans).map PagePlan.page =
      if d.page ∈ plans.map PagePlan.page then plans.map PagePlan.page
      else plans.map PagePlan.page ++ [d.page] := by
  induction plans with
  | nil => rfl
  | cons p rest ih =>
      rw [declare]
      by_cases hpage : p.page = d.page
      · simp [hpage]
      · rw [if_neg hpage, List.map_cons, ih, List.map_cons]
        simp only [List.mem_cons, Ne.symm hpage, false_or]
        split
        · rfl
        · rfl

theorem nodup_declare {plans : List PagePlan} (h : (plans.map PagePlan.page).Nodup) (role : Role)
    (d : Descriptor) : ((declare role d plans).map PagePlan.page).Nodup := by
  rw [map_page_declare]
  split
  · exact h
  · next hnew =>
      refine List.Nodup.append h (List.nodup_singleton d.page) ?_
      rwa [List.disjoint_singleton]

theorem nodup_add {plans : List PagePlan} (h : (plans.map PagePlan.page).Nodup) (d : Descriptor) :
    ((add plans d).map PagePlan.page).Nodup := by
  rw [add]
  split
  · exact nodup_declare h _ d
  · exact h

/-- Only one plan is of the page of a region end. -/
theorem bound_eq_map {plans : List PagePlan} (h : (plans.map PagePlan.page).Nodup)
    (e : RegionEnd) :
    bound e plans = plans.map fun p => if p.page = e.page then p.endedBy (some e) else p := by
  induction plans with
  | nil => rfl
  | cons p rest ih =>
      rw [List.map_cons, List.nodup_cons] at h
      rw [bound, List.map_cons]
      by_cases hpage : p.page = e.page
      · have hrest : (rest.map fun q => if q.page = e.page then q.endedBy (some e) else q) = rest := by
          refine (List.map_congr_left fun q hq => ?_).trans (List.map_id rest)
          have hother : ¬ q.page = e.page := fun hqe =>
            h.1 (List.mem_map.2 ⟨q, hq, hqe.trans hpage.symm⟩)
          exact if_neg hother
        rw [if_pos hpage, if_pos hpage, hrest]
        rfl
      · rw [if_neg hpage, if_neg hpage, ih h.2]

/-- Region ends of different pages bound the plans of these pages. -/
theorem foldl_bound {ends : List RegionEnd} {plans : List PagePlan}
    (hends : (ends.map RegionEnd.page).Nodup) (hplans : (plans.map PagePlan.page).Nodup) :
    ends.foldl (fun plans e => bound e plans) plans =
      plans.map fun p => p.endedBy (ends.find? fun e => e.page = p.page) := by
  induction ends generalizing plans with
  | nil => exact (List.map_id plans).symm
  | cons e rest ih =>
      rw [List.map_cons, List.nodup_cons] at hends
      let step (p : PagePlan) : PagePlan := if p.page = e.page then p.endedBy (some e) else p
      have hstep (p : PagePlan) : (step p).page = p.page := by
        simp only [step]
        split
        · exact p.endedBy_page (some e)
        · rfl
      have hpages : ((plans.map step).map PagePlan.page).Nodup := by
        rw [List.map_map]
        simpa only [Function.comp_def, hstep] using hplans
      rw [List.foldl_cons, bound_eq_map hplans e]
      change rest.foldl (fun plans e => bound e plans) (plans.map step) = _
      rw [ih hends.2 hpages, List.map_map]
      refine List.map_congr_left fun p _ => ?_
      rw [Function.comp_apply, hstep]
      by_cases hpage : p.page = e.page
      · -- The region ends that follow are of other pages.
        have hnone : (rest.find? fun f => f.page = p.page) = none := by
          rw [List.find?_eq_none]
          intro f hf hfp
          rw [decide_eq_true_iff] at hfp
          exact hends.1 (List.mem_map.2 ⟨f, hf, hfp.trans hpage⟩)
        rw [hnone, List.find?_cons_of_pos (by simp [hpage])]
        simp only [step, if_pos hpage]
        rfl
      · rw [List.find?_cons_of_neg (by simpa using Ne.symm hpage)]
        simp only [step, if_neg hpage]

theorem room_le_of_capacity {p : PagePlan} {rows : Nat} (h : p.capacity = .bounded rows) :
    p.room ≤ rows := by
  rw [room, h]
  exact Nat.min_le_left _ _

end PagePlan

namespace FieldMap

def endOf? (m : FieldMap) (page : String) : Option RegionEnd :=
  (m.descriptors.filterMap RegionEnd.of?).find? fun e => e.page = page

theorem find?_regionEnds (m : FieldMap) (page : String) :
    (m.regionEnds.find? fun e => e.page = page) = m.endOf? page := by
  have hfold : ∀ (fields : List Descriptor) (ends : List RegionEnd),
      ((fields.foldl RegionEnd.add ends).find? fun e => e.page = page) =
        ((ends ++ fields.filterMap RegionEnd.of?).find? fun e => e.page = page) := by
    intro fields
    induction fields with
    | nil => intro ends; simp
    | cons d rest ih =>
        intro ends
        rw [List.foldl_cons, ih, List.find?_append, RegionEnd.find?_add, ← List.find?_append]
        cases hd : RegionEnd.of? d with
        | none => rw [List.filterMap_cons_none hd, Option.toList_none, List.append_nil]
        | some e =>
            rw [List.filterMap_cons_some hd, Option.toList_some, List.append_assoc,
              List.singleton_append]
  exact hfold m.descriptors []

theorem nodup_regionEnds (m : FieldMap) : (m.regionEnds.map RegionEnd.page).Nodup :=
  List.foldlRecOn (motive := fun ends => (ends.map RegionEnd.page).Nodup) m.descriptors
    RegionEnd.add List.nodup_nil fun _ h d _ => RegionEnd.nodup_add h d

theorem nodup_openPlans (m : FieldMap) : (m.openPlans.map PagePlan.page).Nodup :=
  List.foldlRecOn (motive := fun plans => (plans.map PagePlan.page).Nodup) m.descriptors
    PagePlan.add List.nodup_nil fun _ h d _ => PagePlan.nodup_add h d

/-- The first region end of its page bounds a plan. -/
theorem plans_eq_map (m : FieldMap) :
    m.plans = m.openPlans.map fun p => p.endedBy (m.endOf? p.page) := by
  rw [plans, PagePlan.foldl_bound m.nodup_regionEnds m.nodup_openPlans]
  refine List.map_congr_left fun p _ => ?_
  rw [m.find?_regionEnds]

theorem capacity_of_endOf? {m : FieldMap} {p : PagePlan} (hp : p ∈ m.plans) {e : RegionEnd}
    (he : m.endOf? p.page = some e) :
    p.capacity = PagePlan.roomBefore p.startRow e.cell.row := by
  rw [plans_eq_map] at hp
  obtain ⟨q, -, rfl⟩ := List.mem_map.1 hp
  rw [PagePlan.endedBy_page] at he
  rw [he]
  rfl

end FieldMap

/-- Placed cells stand above the first region end of their page. -/
theorem Placement.row_lt_of_endOf? {items : List LineItem} {m : FieldMap} {c : PlacedCell}
    (h : c ∈ (ofItems items m.plans).cells) {e : RegionEnd} (he : m.endOf? c.page = some e) :
    c.cell.row < e.cell.row := by
  obtain ⟨p, hp, hpage, ⟨offset, hoffset, hrow⟩, -⟩ := exists_plan_of_mem_cells h
  rw [hpage] at he
  have hroom : p.room ≤ e.cell.row.toNat - p.startRow.toNat :=
    PagePlan.room_le_of_capacity (FieldMap.capacity_of_endOf? hp he)
  rw [UInt32.lt_iff_toNat_lt, hrow]
  omega

end MarkedSheet
