import MarkedSheet.Proofs.Compilation.Groups
import MarkedSheet.Registry.Standard

/-!
# Cells restored from fields

A field map lists fields without saying where a cell ends.  Grouping looks at neighbours only, and
sorts each group by itself.  For the field map of a template whose pages have different names this
restores the cells: those with markers have one group each, in the order of the template, with all
their fields in the order of the text, and nothing is lost or moved on the way.
-/

namespace MarkedSheet

namespace TextCell

variable {r : Registry}

/-- Whether a field stands in a cell. -/
def owns (c : TextCell) (d : Descriptor) : Bool :=
  d.page = c.page && d.cell = c.cell

theorem filter_owns_fields (r : Registry) (c : TextCell) :
    (c.fields r).filter c.owns = c.fields r := by
  refine List.filter_eq_self.2 fun d hd => ?_
  obtain ⟨hpage, hcell, -⟩ := of_mem_fields hd
  simp [owns, hpage, hcell]

theorem filter_owns_fields_of_apart {c d : TextCell} (h : c.Apart d ∨ d.Apart c) (r : Registry) :
    (d.fields r).filter c.owns = [] := by
  refine List.filter_eq_nil_iff.2 fun e he howns => ?_
  obtain ⟨hpage, hcell, -⟩ := of_mem_fields he
  rw [owns, hpage, hcell, Bool.and_eq_true, decide_eq_true_iff, decide_eq_true_iff] at howns
  rcases h with h | h
  · exact h ⟨howns.1.symm, howns.2.symm⟩
  · exact h howns

/-- Among the fields of cells at different places, those at the place of a cell are its own. -/
theorem filter_owns_flatMap {cells : List TextCell} (h : cells.Pairwise Apart) {c : TextCell}
    (hc : c ∈ cells) : (cells.flatMap (fields r)).filter c.owns = c.fields r := by
  rw [List.filter_flatMap, flatMap_eq_of_pairwise h hc]
  · exact filter_owns_fields r c
  · exact fun d happart => filter_owns_fields_of_apart happart r

/-- Cells without markers add no fields. -/
theorem flatMap_fields_filter (r : Registry) (cells : List TextCell) :
    (cells.filter fun c => c.markers r ≠ []).flatMap (fields r) = cells.flatMap (fields r) := by
  induction cells with
  | nil => rfl
  | cons c rest ih =>
      rw [List.flatMap_cons]
      by_cases hc : c.markers r = []
      · rw [List.filter_cons_of_neg (by simpa using hc), ih, fields_eq_nil_iff.2 hc,
          List.nil_append]
      · rw [List.filter_cons_of_pos (by simpa using hc), List.flatMap_cons, ih]

end TextCell

namespace Template

/-- How the groups of a field map restore the cells of a template. -/
structure Restored (r : Registry) (t : Template) (m : FieldMap) : Prop where
  /-- The cells with markers have one group each, which keeps the text, and there are no others. -/
  cells : (m.cells.map fun g => (g.page, g.cell, g.text)) =
    t.pages.flatMap fun p =>
      (p.cells.entries.filter fun e => (Reading.ofText r e.2.toList).markers ≠ []).map fun e =>
        (p.id, e.1, e.2)
  ordered : m.cells.Pairwise fun g h => t.ComesBefore g.page g.cell h.page h.cell
  /-- A group has all fields of its cell. -/
  complete : ∀ g ∈ m.cells,
    g.fields = m.descriptors.filter fun d => d.page = g.page && d.cell = g.cell
  /-- The fields of a group are those of the markers of its text. -/
  described : ∀ g ∈ m.cells,
    g.fields = (Reading.ofText r g.text.toList).markers.map (Marker.describe g.page g.cell g.text)
  ascending : ∀ g ∈ m.cells,
    g.fields.Pairwise fun d e => d.span.start < e.span.start ∧ d.span.stop ≤ e.span.start
  lossless : m.cells.flatMap CellGroup.fields = m.descriptors

variable {r : Registry} {t : Template}

/-- Grouping the fields of a compiled template gives back its cells. -/
theorem cells_compile_restored (h : (t.pages.map Page.id).Nodup) (r : Registry) :
    t.Restored r (t.compile r).fieldMap := by
  show t.Restored r (t.fieldMap r)
  have hcells := cells_fieldMap h r
  -- Every group is that of a filled cell with markers.
  have hgroup : ∀ g ∈ (t.fieldMap r).cells, ∃ c ∈ t.textCells, g = c.group r := by
    intro g hg
    rw [hcells] at hg
    obtain ⟨c, hc, rfl⟩ := List.mem_map.1 hg
    exact ⟨c, (List.mem_filter.1 hc).1, rfl⟩
  constructor
  case cells =>
    rw [hcells, List.map_map, textCells, List.filter_flatMap, List.map_flatMap]
    refine List.flatMap_congr fun p _ => ?_
    rw [List.filter_map, List.map_map]
    rfl
  case ordered =>
    rw [hcells, List.pairwise_map]
    exact (pairwise_textCells h).filter _
  case complete =>
    intro g hg
    obtain ⟨c, hc, rfl⟩ := hgroup g hg
    rw [descriptors_fieldMap]
    exact (TextCell.filter_owns_flatMap (pairwise_apart h) hc).symm
  case described =>
    intro g hg
    obtain ⟨c, -, rfl⟩ := hgroup g hg
    rfl
  case ascending =>
    intro g hg
    obtain ⟨c, -, rfl⟩ := hgroup g hg
    refine List.pairwise_map.2 ((Reading.pairwise_markers r c.text.toList).imp fun {m n} hmn => ?_)
    rwa [Marker.describe_span, Marker.describe_span]
  case lossless =>
    rw [hcells, List.flatMap_map, descriptors_fieldMap]
    exact TextCell.flatMap_fields_filter r t.textCells

/-- Two pages with a cell of two markers, a cell whose bracket is left open and a cell of plain text;
the cells lie outside the declared size of the second page. -/
def mixedTemplate : Template :=
  ⟨"t", [((Page.new "q").withCell ⟨2, 1⟩ "[a] [*b]").withCell ⟨1, 3⟩ "x [y",
    { (Page.new "p").withCell ⟨1, 1⟩ "none" with rows := 0 },
    (Page.new "a").withCell ⟨1, 1⟩ "[#dt_name]"]⟩

theorem mixedTemplate_restored :
    (mixedTemplate.pages.map Page.id).Nodup ∧
      mixedTemplate.Restored Registry.standard
        (mixedTemplate.compile Registry.standard).fieldMap :=
  ⟨by decide, cells_compile_restored (by decide) Registry.standard⟩

end Template

end MarkedSheet
