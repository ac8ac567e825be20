import Mathlib.Data.List.Nodup
import MarkedSheet.Proofs.Compilation.Groups
import MarkedSheet.Registry.Standard

/-!
# Scanning the cells of a template

Cells that lack one of the brackets are passed over, and no marker is lost by that: a marker has
both.  What is lost are reports about brackets left open, in cells without any closing bracket.  The
fields of a compiled template are thus those of all markers of all cells, page by page, in the order
of addresses and of the text, and the text of a cell has no influence on the fields of the others.
-/

namespace MarkedSheet

namespace CellText

theorem located_eq_nil {text : List Char} (h : '[' ∉ text) : (read text).located = [] := by
  have hread : read text = ⟨text, []⟩ := by
    have hlead := @read_append text [] h
    simpa [read] using hlead
  rw [located, hread]
  rfl

/-- Without a closing bracket every segment is left open. -/
theorem exists_unclosed_of_mem_located {text : List Char} (h : ']' ∉ text) {p : Nat × Segment}
    (hp : p ∈ (read text).located) : ∃ content, p.2 = .unclosed content := by
  obtain ⟨before, after, rfl, -, -⟩ := exists_of_mem_located hp
  cases hs : p.2 with
  | closed content tail => simp [hs, Segment.chars] at h
  | unclosed content => exact ⟨content, rfl⟩

end CellText

namespace Reading

variable {r : Registry} {text : List Char}

theorem issues_eq_nil (h : '[' ∉ text) : (ofText r text).issues = [] := by
  simp [ofText, CellText.unclosed, CellText.located_eq_nil h]

/-- Without a closing bracket nothing but open brackets is reported. -/
theorem exists_unclosed_of_mem_issues (h : ']' ∉ text) {i : Issue}
    (hi : i ∈ (ofText r text).issues) : ∃ span, i = .unclosed span := by
  rcases List.mem_append.1 hi with hi | hi
  · obtain ⟨span, -, rfl⟩ := List.mem_map.1 hi
    exact ⟨span, rfl⟩
  · obtain ⟨p, hp, hissue⟩ := List.mem_filterMap.1 hi
    obtain ⟨content, hs⟩ := CellText.exists_unclosed_of_mem_located h hp
    rw [hs] at hissue
    cases hissue

end Reading

namespace Template

variable {r : Registry} {t : Template}

theorem diagnostics_scanCell (r : Registry) (page : String) (cell : Address) (text : String) :
    (scanCell r page cell text).diagnostics =
      if ']' ∈ text.toList then
        (Reading.ofText r text.toList).issues.map (Issue.diagnostic page cell text)
      else [] := by
  rw [scanCell]
  by_cases hclose : ']' ∈ text.toList
  · by_cases hopen : '[' ∈ text.toList
    · have hcandidate : isCandidate text = true := by simp [isCandidate, hopen, hclose]
      rw [if_pos hcandidate, if_pos hclose]
    · have hcandidate : isCandidate text = false := by simp [isCandidate, hopen]
      rw [hcandidate, if_pos hclose, Reading.issues_eq_nil hopen]
      rfl
  · have hcandidate : isCandidate text = false := by simp [isCandidate, hclose]
    rw [hcandidate, if_neg hclose]
    rfl

/-- The fields are those of the markers of every cell, with or without both brackets. -/
theorem descriptors_eq_flatMap (r : Registry) (t : Template) :
    (t.fieldMap r).descriptors =
      t.pages.flatMap fun p => p.cells.entries.flatMap fun e =>
        (Reading.ofText r e.2.toList).markers.map (Marker.describe p.id e.1 e.2) := by
  rw [descriptors_fieldMap, textCells, List.flatMap_assoc]
  refine List.flatMap_congr fun p _ => ?_
  rw [List.flatMap_map]
  rfl

theorem issues_fieldMap (r : Registry) (t : Template) :
    (t.fieldMap r).issues =
      (t.pages.flatMap fun p => p.cells.entries.flatMap fun e =>
        if ']' ∈ e.2.toList then
          (Reading.ofText r e.2.toList).issues.map (Issue.diagnostic p.id e.1 e.2)
        else []) ++
      if (t.fieldMap r).descriptors = [] then [t.noMarkers] else [] := by
  have hfound : (t.scans r).flatMap Scan.diagnostics =
      t.pages.flatMap fun p => p.cells.entries.flatMap fun e =>
        if ']' ∈ e.2.toList then
          (Reading.ofText r e.2.toList).issues.map (Issue.diagnostic p.id e.1 e.2)
        else [] := by
    rw [scans, List.flatMap_assoc]
    refine List.flatMap_congr fun p _ => ?_
    rw [List.flatMap_map]
    exact List.flatMap_congr fun e _ => diagnostics_scanCell r p.id e.1 e.2
  have hissues : (t.fieldMap r).issues =
      if ((t.scans r).flatMap Scan.descriptors).isEmpty then
        (t.scans r).flatMap Scan.diagnostics ++ [t.noMarkers]
      else (t.scans r).flatMap Scan.diagnostics := rfl
  have hdescriptors : (t.fieldMap r).descriptors = (t.scans r).flatMap Scan.descriptors := rfl
  rw [hissues, hdescriptors, hfound]
  cases (t.scans r).flatMap Scan.descriptors <;> simp

/-- One field stands before another: on an earlier page, or at a smaller address of the same page, or
earlier in the text of the same cell. -/
def Precedes (t : Template) (d e : Descriptor) : Prop :=
  (t.pages.map Page.id).idxOf d.page < (t.pages.map Page.id).idxOf e.page ∨
    d.page = e.page ∧ (d.cell < e.cell ∨ d.cell = e.cell ∧ d.span.start < e.span.start)

theorem pairwise_precedes (h : (t.pages.map Page.id).Nodup) (r : Registry) :
    (t.fieldMap r).descriptors.Pairwise t.Precedes := by
  rw [descriptors_fieldMap]
  refine List.pairwise_flatMap.2 ⟨fun c _ => ?_, (pairwise_textCells h).imp fun {b c} hbc => ?_⟩
  · -- Within a cell the fields come in the order of the markers.
    refine List.pairwise_map.2 ((Reading.pairwise_markers r _).imp fun {m n} hmn => ?_)
    right
    simp [hmn.1]
  · intro d hd e he
    obtain ⟨hdpage, hdcell, -⟩ := TextCell.of_mem_fields hd
    obtain ⟨hepage, hecell, -⟩ := TextCell.of_mem_fields he
    unfold Precedes
    rw [hdpage, hepage, hdcell, hecell]
    exact hbc.imp_right fun ⟨hpage, hlt⟩ => ⟨hpage, Or.inl hlt⟩

theorem Precedes.not_same {d e : Descriptor} (h : t.Precedes d e) :
    ¬ (d.page = e.page ∧ d.cell = e.cell ∧ d.span = e.span) := by
  rintro ⟨hpage, hcell, hspan⟩
  rcases h with h | ⟨-, h | ⟨-, h⟩⟩
  · rw [hpage] at h
    exact Nat.lt_irrefl _ h
  · rw [hcell] at h
    exact Address.lt_irrefl _ h
  · rw [hspan] at h
    exact Nat.lt_irrefl _ h

/-- The template with another text in a cell of a page. -/
def withText (t : Template) (page : String) (a : Address) (text : String) : Template :=
  { t with
    pages := t.pages.map fun p =>
      if p.id = page then { p with cells := p.cells.insert a text } else p }

/-- Whether a field stands in another cell than the given one. -/
def elsewhere (page : String) (a : Address) (d : Descriptor) : Bool :=
  !(d.page = page && d.cell = a)

theorem filter_place (a : Address) (text : String) (entries : List (Address × String)) :
    (Cells.place a text entries).filter (fun e => e.1 ≠ a) =
      entries.filter (fun e => e.1 ≠ a) := by
  induction entries with
  | nil => simp [Cells.place]
  | cons e rest ih =>
      obtain ⟨b, w⟩ := e
      rw [Cells.place]
      by_cases hlt : a < b
      · simp [hlt]
      · by_cases heq : a = b
        · subst heq
          simp [Address.lt_irrefl]
        · rw [if_neg hlt, if_neg heq, List.filter_cons, List.filter_cons, ih]

/-- The fields of a page outside one cell depend on the entries outside that cell only. -/
theorem filter_elsewhere_fields (r : Registry) (page : String) (a : Address)
    (entries : List (Address × String)) :
    (entries.flatMap fun e =>
        (Reading.ofText r e.2.toList).markers.map (Marker.describe page e.1 e.2)).filter
          (elsewhere page a) =
      (entries.filter fun e => e.1 ≠ a).flatMap fun e =>
        (Reading.ofText r e.2.toList).markers.map (Marker.describe page e.1 e.2) := by
  induction entries with
  | nil => rfl
  | cons e rest ih =>
      rw [List.flatMap_cons, List.filter_append, ih]
      by_cases he : e.1 = a
      · have hnone : ((Reading.ofText r e.2.toList).markers.map
            (Marker.describe page e.1 e.2)).filter (elsewhere page a) = [] := by
          refine List.filter_eq_nil_iff.2 fun d hd => ?_
          obtain ⟨m, -, rfl⟩ := List.mem_map.1 hd
          simp [elsewhere, he]
        rw [hnone, List.filter_cons_of_neg (by simp [he]), List.nil_append]
      · have hall : ((Reading.ofText r e.2.toList).markers.map
            (Marker.describe page e.1 e.2)).filter (elsewhere page a) =
              (Reading.ofText r e.2.toList).markers.map (Marker.describe page e.1 e.2) := by
          refine List.filter_eq_self.2 fun d hd => ?_
          obtain ⟨m, -, rfl⟩ := List.mem_map.1 hd
          simp [elsewhere, he]
        rw [hall, List.filter_cons_of_pos (by simp [he]), List.flatMap_cons]

/-- The text of a cell has no influence on the fields of the other cells. -/
theorem filter_elsewhere_withText (r : Registry) (t : Template) (page : String) (a : Address)
    (text : String) :
    ((t.withText page a text).fieldMap r).descriptors.filter (elsewhere page a) =
      (t.fieldMap r).descriptors.filter (elsewhere page a) := by
  rw [descriptors_eq_flatMap, descriptors_eq_flatMap, withText, List.flatMap_map,
    List.filter_flatMap, List.filter_flatMap]
  refine List.flatMap_congr fun p _ => ?_
  by_cases hp : p.id = page
  · subst hp
    rw [if_pos rfl, filter_elsewhere_fields, filter_elsewhere_fields]
    change ((Cells.place a text p.cells.entries).filter _).flatMap _ = _
    rw [filter_place]
  · rw [if_neg hp]

/-- How the field map of a compilation comes from the cells of its template. -/
structure Scanned (r : Registry) (t : Template) (c : Compilation) : Prop where
  /-- Every marker of every cell gives a field, whether or not the cell is looked at. -/
  fields : c.fieldMap.descriptors =
    t.pages.flatMap fun p => p.cells.entries.flatMap fun e =>
      (Reading.ofText r e.2.toList).markers.map (Marker.describe p.id e.1 e.2)
  bound : ∀ d ∈ c.fieldMap.descriptors, ∃ p ∈ t.pages, ∃ e ∈ p.cells.entries,
    d.page = p.id ∧ d.cell = e.1 ∧ d.cellText = e.2 ∧
      ∃ m ∈ (Reading.ofText r e.2.toList).markers, d.span = m.span
  reported : c.fieldMap.issues =
    (t.pages.flatMap fun p => p.cells.entries.flatMap fun e =>
      if ']' ∈ e.2.toList then
        (Reading.ofText r e.2.toList).issues.map (Issue.diagnostic p.id e.1 e.2)
      else []) ++
    if c.fieldMap.descriptors = [] then [t.noMarkers] else []
  /-- What is not reported for want of a closing bracket is a bracket left open. -/
  suppressed : ∀ p ∈ t.pages, ∀ e ∈ p.cells.entries, ']' ∉ e.2.toList →
    ∀ i ∈ (Reading.ofText r e.2.toList).issues, ∃ span, i = .unclosed span
  ascending : (t.pages.map Page.id).Nodup → c.fieldMap.descriptors.Pairwise t.Precedes
  distinct : (t.pages.map Page.id).Nodup → c.fieldMap.descriptors.Pairwise fun d e =>
    ¬ (d.page = e.page ∧ d.cell = e.cell ∧ d.span = e.span)
  /-- Another text in one cell leaves the fields of all other cells in place. -/
  undisturbed : ∀ page a text,
    ((t.withText page a text).compile r).fieldMap.descriptors.filter (elsewhere page a) =
      c.fieldMap.descriptors.filter (elsewhere page a)

/-- Compilation scans every cell and loses no marker. -/
theorem compile_scanned (r : Registry) (t : Template) : t.Scanned r (t.compile r) where
  fields := descriptors_eq_flatMap r t
  bound := by
    intro d hd
    have hfields : d ∈ (t.fieldMap r).descriptors := hd
    rw [descriptors_eq_flatMap] at hfields
    obtain ⟨p, hp, hd⟩ := List.mem_flatMap.1 hfields
    obtain ⟨e, he, hd⟩ := List.mem_flatMap.1 hd
    obtain ⟨m, hm, rfl⟩ := List.mem_map.1 hd
    refine ⟨p, hp, e, he, ?_, ?_, ?_, m, hm, ?_⟩ <;> simp
  reported := issues_fieldMap r t
  suppressed := fun _ _ _ _ hclose _ hi => Reading.exists_unclosed_of_mem_issues hclose hi
  ascending := fun h => pairwise_precedes h r
  distinct := fun h => (pairwise_precedes h r).imp Precedes.not_same
  undisturbed := filter_elsewhere_withText r t

/-- Two pages with markers in several cells, one of which is left open. -/
def twoPages : Template :=
  ⟨"t", [((Page.new "p").withCell ⟨2, 1⟩ "[a] [b]").withCell ⟨1, 3⟩ "x [#dt_name]",
    (Page.new "q").withCell ⟨1, 1⟩ "[*c] [d"]⟩

theorem twoPages_ascending :
    (twoPages.compile Registry.standard).fieldMap.descriptors.length = 4 ∧
      (twoPages.compile Registry.standard).fieldMap.descriptors.Pairwise twoPages.Precedes :=
  ⟨by decide, (compile_scanned Registry.standard twoPages).ascending (by decide)⟩

end Template

end MarkedSheet
