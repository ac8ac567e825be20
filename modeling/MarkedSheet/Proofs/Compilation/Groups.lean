import MarkedSheet.Compilation
import MarkedSheet.Proofs.Marker.Accounting
import MarkedSheet.Proofs.Template.TextCells

/-!
# The groups of a compiled template

The fields of a compiled template come cell by cell, so that grouping neighbours restores the cells:
each filled cell with a marker has one group, which holds the fields of all its markers in the order
of the text.
-/

namespace MarkedSheet

namespace Marker

/-- Whether a marker stands for a table column or a control mark. -/
def isTableMark (m : Marker) : Bool :=
  match m.form with
  | .registered e =>
      match e.kind with
      | .basic => false
      | .column _ => true
      | .control _ => true
  | .reference _ => false
  | .plain _ => false

variable (page : String) (cell : Address) (text : String) (m : Marker)

@[simp]
theorem describe_page : (m.describe page cell text).page = page := by
  rw [describe]
  cases m.form <;> rfl

@[simp]
theorem describe_cell : (m.describe page cell text).cell = cell := by
  rw [describe]
  cases m.form <;> rfl

@[simp]
theorem describe_cellText : (m.describe page cell text).cellText = text := by
  rw [describe]
  cases m.form <;> rfl

@[simp]
theorem describe_span : (m.describe page cell text).span = m.span := by
  rw [describe]
  cases m.form <;> rfl

/-- The fields that take a value of their own are those of the markers that steer no table. -/
theorem isResolvable_describe : (m.describe page cell text).isResolvable = !m.isTableMark := by
  rw [describe, isTableMark]
  cases m.form with
  | registered e =>
      cases he : e.kind <;> simp [Descriptor.isResolvable, kindOf, he]
  | reference name => rfl
  | plain field => rfl

end Marker

namespace Template

/-- A text with a marker holds both brackets. -/
theorem isCandidate_of_mem_markers {r : Registry} {text : String} {m : Marker}
    (h : m ∈ (Reading.ofText r text.toList).markers) : isCandidate text = true := by
  obtain ⟨p, hp, hpm, -⟩ := Reading.exists_segment_of_mem_markers h
  obtain ⟨before, after, htext, -, -⟩ := CellText.exists_of_mem_located hp
  obtain ⟨content, tail, hclosed⟩ := Segment.exists_closed_of_marker? hpm
  rw [hclosed, Segment.chars] at htext
  simp [isCandidate, htext]

end Template

namespace TextCell

variable (r : Registry)

def markers (c : TextCell) : List Marker :=
  (Reading.ofText r c.text.toList).markers

def fields (c : TextCell) : List Descriptor :=
  (c.markers r).map (Marker.describe c.page c.cell c.text)

def group (c : TextCell) : CellGroup :=
  ⟨c.page, c.cell, c.text, c.fields r⟩

theorem of_mem_fields {r : Registry} {c : TextCell} {d : Descriptor} (h : d ∈ c.fields r) :
    d.page = c.page ∧ d.cell = c.cell ∧ d.cellText = c.text := by
  obtain ⟨m, -, rfl⟩ := List.mem_map.1 h
  exact ⟨Marker.describe_page .., Marker.describe_cell .., Marker.describe_cellText ..⟩

theorem fields_eq_nil_iff {r : Registry} {c : TextCell} : c.fields r = [] ↔ c.markers r = [] :=
  List.map_eq_nil_iff

/-- The fields of a cell are in the order of its text. -/
theorem pairwise_fields (c : TextCell) :
    (c.fields r).Pairwise fun d e => d.span.start ≤ e.span.start := by
  refine List.pairwise_map.2 ((Reading.pairwise_markers r c.text.toList).imp fun {m n} hmn => ?_)
  rw [Marker.describe_span, Marker.describe_span]
  exact Nat.le_of_lt hmn.1

/-- Cells that are passed over for want of a bracket have no markers. -/
theorem descriptors_scanCell (c : TextCell) :
    (Template.scanCell r c.page c.cell c.text).descriptors = c.fields r := by
  rw [Template.scanCell]
  split
  · rfl
  · next hcandidate =>
      have hnone : c.markers r = [] := by
        refine List.eq_nil_iff_forall_not_mem.2 fun m hm => ?_
        exact hcandidate (Template.isCandidate_of_mem_markers hm)
      exact (fields_eq_nil_iff.2 hnone).symm

end TextCell

namespace CellGroup

/-- Fields of one cell in front of fields of another form a group of their own. -/
theorem neighbours_append {page : String} {cell : Address} {text : String}
    {fields rest : List Descriptor} (hne : fields ≠ [])
    (hfields : ∀ d ∈ fields, d.page = page ∧ d.cell = cell ∧ d.cellText = text)
    (hrest : ∀ g ∈ neighbours rest, ¬ (g.page = page ∧ g.cell = cell)) :
    neighbours (fields ++ rest) = ⟨page, cell, text, fields⟩ :: neighbours rest := by
  -- Only the last of the fields meets the groups of the rest.
  induction fields with
  | nil => exact absurd rfl hne
  | cons d fields ih =>
      obtain ⟨rfl, rfl, rfl⟩ := hfields d List.mem_cons_self
      rw [List.cons_append, neighbours]
      cases fields with
      | nil =>
          rw [List.nil_append]
          cases hgroups : neighbours rest with
          | nil => rfl
          | cons g groups =>
              have hother : g.owns d = false := by
                have hg := hrest g (by rw [hgroups]; exact List.mem_cons_self)
                simpa [owns] using hg
              simp [hother, single]
      | cons e fields =>
          rw [ih (List.cons_ne_nil e fields) fun x hx => hfields x (List.mem_cons_of_mem _ hx)]
          simp [owns]

theorem insertField_eq_cons {d : Descriptor} {fields : List Descriptor}
    (h : ∀ e ∈ fields, d.span.start ≤ e.span.start) : insertField d fields = d :: fields := by
  cases fields with
  | nil => rfl
  | cons e rest => rw [insertField, if_pos (h e List.mem_cons_self)]

theorem sortFields_eq_self {fields : List Descriptor}
    (h : fields.Pairwise fun d e => d.span.start ≤ e.span.start) : sortFields fields = fields := by
  induction fields with
  | nil => rfl
  | cons d rest ih =>
      rw [List.pairwise_cons] at h
      rw [sortFields, ih h.2, insertField_eq_cons h.1]

/-- Grouping the fields of cells at different places gives one group for each cell with fields. -/
theorem neighbours_fields (r : Registry) {cells : List TextCell}
    (h : cells.Pairwise TextCell.Apart) :
    neighbours (cells.flatMap (TextCell.fields r)) =
      (cells.filter fun c => c.markers r ≠ []).map (TextCell.group r) := by
  induction cells with
  | nil => rfl
  | cons c rest ih =>
      rw [List.pairwise_cons] at h
      have hrest := ih h.2
      rw [List.flatMap_cons]
      by_cases hc : c.markers r = []
      · rw [TextCell.fields_eq_nil_iff.2 hc, List.nil_append, hrest, List.filter_cons_of_neg]
        simpa using hc
      · rw [List.filter_cons_of_pos (by simpa using hc), List.map_cons, ← hrest]
        refine neighbours_append (mt TextCell.fields_eq_nil_iff.1 hc)
          (fun d hd => TextCell.of_mem_fields hd) fun g hg hsame => ?_
        rw [hrest] at hg
        obtain ⟨e, he, rfl⟩ := List.mem_map.1 hg
        exact h.1 e (List.mem_filter.1 he).1 ⟨hsame.1.symm, hsame.2.symm⟩

end CellGroup

namespace Template

theorem descriptors_fieldMap (r : Registry) (t : Template) :
    (t.fieldMap r).descriptors = t.textCells.flatMap (TextCell.fields r) := by
  have hscans : t.scans r =
      t.textCells.map fun c => scanCell r c.page c.cell c.text := by
    rw [scans, textCells, List.map_flatMap]
    simp only [List.map_map]
    rfl
  rw [fieldMap, hscans, List.flatMap_map]
  exact List.flatMap_congr fun c _ => c.descriptors_scanCell r

/-- A field of a compiled template stands in a filled cell. -/
theorem exists_textCell_of_mem_descriptors {r : Registry} {t : Template} {d : Descriptor}
    (h : d ∈ (t.fieldMap r).descriptors) :
    ∃ c ∈ t.textCells, d.page = c.page ∧ d.cell = c.cell := by
  rw [descriptors_fieldMap] at h
  obtain ⟨c, hc, hd⟩ := List.mem_flatMap.1 h
  exact ⟨c, hc, (TextCell.of_mem_fields hd).1, (TextCell.of_mem_fields hd).2.1⟩

/-- The groups of a compiled template are its cells with markers. -/
theorem cells_fieldMap {t : Template} (h : (t.pages.map Page.id).Nodup) (r : Registry) :
    (t.fieldMap r).cells =
      (t.textCells.filter fun c => c.markers r ≠ []).map (TextCell.group r) := by
  rw [FieldMap.cells, descriptors_fieldMap, CellGroup.neighbours_fields r (pairwise_apart h),
    List.map_map]
  refine List.map_congr_left fun c _ => ?_
  change (c.group r).sorted = c.group r
  rw [CellGroup.sorted, TextCell.group, CellGroup.sortFields_eq_self (c.pairwise_fields r)]

end Template

end MarkedSheet
