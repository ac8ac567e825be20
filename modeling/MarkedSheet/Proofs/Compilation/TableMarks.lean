import MarkedSheet.Proofs.Compilation.Groups
import MarkedSheet.Proofs.Placement.Regions

/-!
# Table marks of a compiled template

The column fields and the region ends of a compiled template are those of its column markers and
region-end markers.  Its fields come page by page and row by row, so that the first region end of a
page is the topmost one.
-/

namespace MarkedSheet

namespace Marker

/-- The marker stands for a table column. -/
def IsColumn (m : Marker) : Prop :=
  ∃ e role, m.form = .registered e ∧ e.kind = .column role

/-- The marker stands for the end of a table region. -/
def IsRegionEnd (m : Marker) : Prop :=
  ∃ e, m.form = .registered e ∧ e.kind = .control .regionEnd

variable (page : String) (cell : Address) (text : String) (m : Marker)

theorem isSome_columnOf?_describe :
    (PagePlan.columnOf? (m.describe page cell text)).isSome ↔ m.IsColumn := by
  obtain ⟨form, span⟩ := m
  cases form with
  | registered e =>
      cases he : e.kind <;>
        simp [PagePlan.columnOf?, describe, IsColumn, kindOf, Entry.role?, he]
  | reference name => simp [PagePlan.columnOf?, describe, IsColumn]
  | plain field => simp [PagePlan.columnOf?, describe, IsColumn]

theorem regionEnd_of?_describe {m : Marker} (h : m.IsRegionEnd) :
    RegionEnd.of? (m.describe page cell text) = some ⟨page, cell⟩ := by
  obtain ⟨e, hform, hkind⟩ := h
  have hcontrol : e.control? = some .regionEnd := by rw [Entry.control?, hkind]
  rw [describe, hform]
  simp only [RegionEnd.of?, hkind, kindOf, hcontrol]
  rfl

end Marker

theorem Address.row_le_of_lt {a b : Address} (h : a < b) : a.row ≤ b.row := by
  rcases h with h | ⟨h, -⟩
  · exact UInt32.le_of_lt h
  · exact h ▸ UInt32.le_refl a.row

/-- A region end that a field marks has the place of the field. -/
theorem RegionEnd.of_of?_eq_some {d : Descriptor} {e : RegionEnd} (h : of? d = some e) :
    e = ⟨d.page, d.cell⟩ := by
  rw [of?] at h
  split at h
  · exact (Option.some.inj h).symm
  · cases h

namespace Template

/-- A cell of a page holds a marker of some sort. -/
def MarkedAt (t : Template) (r : Registry) (sort : Marker → Prop) (page : String) (a : Address) :
    Prop :=
  ∃ c ∈ t.textCells, c.page = page ∧ c.cell = a ∧ ∃ m ∈ c.markers r, sort m

variable {r : Registry} {t : Template}

theorem mem_descriptors_iff {d : Descriptor} :
    d ∈ (t.fieldMap r).descriptors ↔
      ∃ c ∈ t.textCells, ∃ m ∈ c.markers r, m.describe c.page c.cell c.text = d := by
  rw [descriptors_fieldMap, List.mem_flatMap]
  simp only [TextCell.fields, List.mem_map]

theorem markedAt_of_mem_columnFields {d : Descriptor} (h : d ∈ (t.fieldMap r).columnFields) :
    t.MarkedAt r Marker.IsColumn d.page d.cell := by
  obtain ⟨hd, hcolumn⟩ := List.mem_filter.1 h
  obtain ⟨c, hc, m, hm, rfl⟩ := mem_descriptors_iff.1 hd
  rw [Marker.isSome_columnOf?_describe] at hcolumn
  exact ⟨c, hc, (Marker.describe_page ..).symm, (Marker.describe_cell ..).symm, m, hm, hcolumn⟩

/-- The fields of a page follow each other from the top down. -/
theorem Valid.pairwise_descriptors (h : t.Valid) (r : Registry) :
    (t.fieldMap r).descriptors.Pairwise fun d e => d.page = e.page → d.cell.row ≤ e.cell.row := by
  have hcells := pairwise_ascending h.distinct
  rw [descriptors_fieldMap]
  refine List.pairwise_flatMap.2 ⟨fun c _ => ?_, hcells.imp fun {b c} hbc => ?_⟩
  · refine List.pairwise_of_forall_mem_list fun d hd e he _ => ?_
    rw [(TextCell.of_mem_fields hd).2.1, (TextCell.of_mem_fields he).2.1]
    exact UInt32.le_refl _
  · intro d hd e he hpage
    obtain ⟨hdpage, hdcell, -⟩ := TextCell.of_mem_fields hd
    obtain ⟨hepage, hecell, -⟩ := TextCell.of_mem_fields he
    rw [hdcell, hecell]
    exact Address.row_le_of_lt (hbc (hdpage.symm.trans (hpage.trans hepage)))

theorem Valid.pairwise_regionEnds (h : t.Valid) (r : Registry) :
    ((t.fieldMap r).descriptors.filterMap RegionEnd.of?).Pairwise
      fun e f => e.page = f.page → e.cell.row ≤ f.cell.row := by
  refine (h.pairwise_descriptors r).filterMap _ fun d d' hdd e he e' he' => ?_
  obtain rfl := RegionEnd.of_of?_eq_some he
  obtain rfl := RegionEnd.of_of?_eq_some he'
  exact hdd

/-- A page with region-end markers has a first region end, and it is the topmost one. -/
theorem Valid.exists_endOf? (h : t.Valid) {page : String} {a : Address}
    (ha : t.MarkedAt r Marker.IsRegionEnd page a) :
    ∃ e, (t.fieldMap r).endOf? page = some e ∧ e.cell.row ≤ a.row := by
  obtain ⟨c, hc, rfl, rfl, m, hm, hend⟩ := ha
  have hmem : (⟨c.page, c.cell⟩ : RegionEnd) ∈
      (t.fieldMap r).descriptors.filterMap RegionEnd.of? := by
    refine List.mem_filterMap.2 ⟨m.describe c.page c.cell c.text, ?_, ?_⟩
    · exact mem_descriptors_iff.2 ⟨c, hc, m, hm, rfl⟩
    · exact Marker.regionEnd_of?_describe c.page c.cell c.text hend
  have hpairwise := h.pairwise_regionEnds r
  cases hfound : (t.fieldMap r).endOf? c.page with
  | none =>
      rw [FieldMap.endOf?, List.find?_eq_none] at hfound
      exact absurd (decide_eq_true rfl) (hfound _ hmem)
  | some e =>
      refine ⟨e, rfl, ?_⟩
      have hpage := List.find?_some hfound
      rw [decide_eq_true_iff] at hpage
      rcases eq_or_rel_of_find? hpairwise hfound hmem (decide_eq_true rfl) with rfl | hbelow
      · exact UInt32.le_refl c.cell.row
      · exact hbelow hpage

end Template

end MarkedSheet
