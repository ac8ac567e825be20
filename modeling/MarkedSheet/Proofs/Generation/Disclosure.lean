import MarkedSheet.Proofs.Generation.CellByCell

/-!
# What references disclose

References are taken from approved reports with other names than the one that is filled in.  All
other reports of a history, drafts among them, may come and go and leave no trace in what is
generated.  Nor does a cell whose markers are references show anything of the report itself: only its
name and its business key have a say in which earlier report is chosen.
-/

namespace MarkedSheet

namespace History

/-- The approved reports of a history with other names than the given one. -/
def approvedBeside (h : History) (id : String) : History :=
  h.filter fun q => q.status = .approved && q.id ≠ id

/-- Reports that are not approved, or have the excluded name, are never found. -/
theorem latestApproved_approvedBeside (h : History) (key? : Option String) (id : String) :
    (h.approvedBeside id).latestApproved key? id = h.latestApproved key? id := by
  rw [latestApproved, latestApproved, approvedBeside, List.filter_filter]
  congr 1
  refine List.filter_congr fun q _ => ?_
  unfold Report.isReference
  cases q.status = .approved && q.id ≠ id <;> simp

end History

namespace Report

variable {report other : Report} {h h' : History}

/-- Which report serves as the source depends on the approved reports with other names only. -/
theorem source?_of_approvedBeside
    (hsame : h.approvedBeside report.id = h'.approvedBeside report.id) :
    report.source? h = report.source? h' := by
  have hfound : ∀ key?, h.latestApproved key? report.id = h'.latestApproved key? report.id := by
    intro key?
    rw [← h.latestApproved_approvedBeside, hsame, h'.latestApproved_approvedBeside]
  simp only [source?, hfound]

/-- Of the report itself only the name and the business key have a say in the choice. -/
theorem source?_of_id_of_businessKey (hid : other.id = report.id)
    (hkey : other.businessKey = report.businessKey) (history : HistoryLookup) :
    other.source? history = report.source? history := by
  rw [source?, source?, hid, hkey]

end Report

/-- The marker stands for a value of an earlier report. -/
def Marker.IsReference (m : Marker) : Prop :=
  ∃ name, m.form = .reference name

namespace Marker

variable {m : Marker}

theorem IsReference.kind_describe (h : m.IsReference) (page : String) (cell : Address)
    (text : String) : (m.describe page cell text).kind = .reference := by
  obtain ⟨name, hform⟩ := h
  rw [describe, hform]

theorem IsReference.not_isTableMark (h : m.IsReference) : ¬ m.isTableMark = true := by
  obtain ⟨name, hform⟩ := h
  rw [isTableMark, hform]
  exact Bool.false_ne_true

end Marker

namespace Generation

variable {ctx ctx' : Context}

/-- Filling in takes nothing from a context but the values of the fields. -/
theorem fillCells?_congr (h : replacement ctx = replacement ctx') (grid : FilledGrid)
    (groups : List CellGroup) : fillCells? ctx grid groups = fillCells? ctx' grid groups := by
  have hvalue : cellValue? ctx = cellValue? ctx' := by
    ext g v
    rw [cellValue?, cellValue?, h]
  induction groups generalizing grid with
  | nil => rfl
  | cons g rest ih =>
      unfold fillCells?
      cases grid.page? g.page with
      | none => exact ih grid
      | some page =>
          show (cellValue? ctx g).bind _ = (cellValue? ctx' g).bind _
          rw [hvalue]
          congr 1
          funext v
          exact ih _

theorem run?_congr (hreport : ctx.report = ctx'.report) (hconfig : ctx.config = ctx'.config)
    (h : ∀ d, replacement ctx d = replacement ctx' d) (t : Template) (m : FieldMap) :
    run? ctx t m = run? ctx' t m := by
  rw [run?, run?, fillCells?_congr (funext h), hreport, hconfig]

section Reports

variable {registry : Registry} {config : Config} {report other : Report} {h h' : History}

/-- A run is the same by histories that agree on the approved reports with other names. -/
theorem run?_of_approvedBeside (hsame : h.approvedBeside report.id = h'.approvedBeside report.id)
    (t : Template) (m : FieldMap) :
    run? ⟨registry, report, h, config⟩ t m = run? ⟨registry, report, h', config⟩ t m := by
  have hsource := Report.source?_of_approvedBeside hsame
  apply run?_congr
  · rfl
  · rfl
  intro d
  have hresolve : d.resolve registry report h = d.resolve registry report h' := by
    unfold Descriptor.resolve Descriptor.referenceValue
    rw [hsource]
  simp only [replacement, hresolve]

/-- A cell whose markers are references takes the same values for reports that have the name and the
business key in common. -/
theorem replacements_of_isReference (hid : other.id = report.id)
    (hkey : other.businessKey = report.businessKey) (history : HistoryLookup) {c : TextCell}
    (hmarkers : ∀ m ∈ c.markers registry, m.IsReference) :
    c.replacements ⟨registry, other, history, config⟩ =
      c.replacements ⟨registry, report, history, config⟩ := by
  have hsource := Report.source?_of_id_of_businessKey hid hkey history
  refine List.map_congr_left fun m hm => ?_
  have hkind := (hmarkers m hm).kind_describe c.page c.cell c.text
  have hresolve : (m.describe c.page c.cell c.text).resolve registry other history =
      (m.describe c.page c.cell c.text).resolve registry report history := by
    simp only [Descriptor.resolve, hkind, Descriptor.referenceValue, hsource]
  simp only [hresolve]

/-- What a cell shows whose markers are references, where nothing is placed on it. -/
theorem exists_value_of_isReference {t : Template} (hvalid : t.Valid) {page : String} {a : Address}
    {text : String} (htext : t.text? page a = some text)
    (hmarkers : ∀ m ∈ TextCell.markers registry ⟨page, a, text⟩, m.IsReference)
    (hid : other.id = report.id) (hkey : other.businessKey = report.businessKey)
    (history : HistoryLookup) :
    ∃ v, (filled ⟨registry, report, history, config⟩ t).value? page a = some v ∧
      (filled ⟨registry, other, history, config⟩ t).value? page a = some v := by
  by_cases hnone : TextCell.markers registry ⟨page, a, text⟩ = []
  · -- Without any marker the cell shows its text.
    have hliteral : ∀ r : Report,
        (filled ⟨registry, r, history, config⟩ t).value? page a = some (.text text) := by
      intro r
      rw [value?_filled_of_no_markers hvalid, htext]
      · rfl
      · intro text' htext'
        obtain rfl : text = text' := Option.some.inj (htext.symm.trans htext')
        exact hnone
    exact ⟨.text text, hliteral report, hliteral other⟩
  · have hplain : ¬ (TextCell.markers registry ⟨page, a, text⟩).any Marker.isTableMark = true := by
      rw [List.any_eq_true]
      rintro ⟨m, hm, hmark⟩
      exact (hmarkers m hm).not_isTableMark hmark
    obtain ⟨v, hv, hshown⟩ := @exists_value_filled_of_not_any ⟨registry, report, history, config⟩
      t hvalid page a text htext hplain hnone
    obtain ⟨w, hw, hshown'⟩ := @exists_value_filled_of_not_any ⟨registry, other, history, config⟩
      t hvalid page a text htext hplain hnone
    rw [replacements_of_isReference hid hkey history hmarkers] at hw
    obtain rfl : v = w := Option.some.inj (hv.symm.trans hw)
    exact ⟨v, hshown, hshown'⟩

end Reports

/-- Nothing is placed on a cell. -/
def Spares (out : Generation) (page : String) (a : Address) : Prop :=
  ∀ c ∈ out.placement.cells, ¬ (c.page = page ∧ c.cell = a)

theorem last?_of_spares {out : Generation} {page : String} {a : Address}
    (h : out.Spares page a) : out.placement.last? page a = none := by
  rw [Placement.last?, List.getLast?_eq_none_iff, List.filter_eq_nil_iff]
  intro c hc hat
  rw [Bool.and_eq_true, decide_eq_true_iff, decide_eq_true_iff] at hat
  exact h c hc hat

/-- What a report and its history do not disclose. -/
structure Undisclosed (registry : Registry) (config : Config) (report : Report) : Prop where
  /-- Reports that are not approved, and earlier states of the report itself, leave no trace. -/
  unapproved : ∀ (t : Template) (m : FieldMap) (h h' : History),
    h.approvedBeside report.id = h'.approvedBeside report.id →
      run? ⟨registry, report, h, config⟩ t m = run? ⟨registry, report, h', config⟩ t m
  /-- References show the same for every report of this name and business key. -/
  ownValues : ∀ (other : Report) (t : Template) (h : History), other.id = report.id →
    other.businessKey = report.businessKey → t.validate = .ok t →
      ∃ out out', run? ⟨registry, report, h, config⟩ t (t.compile registry).fieldMap = some out ∧
        run? ⟨registry, other, h, config⟩ t (t.compile registry).fieldMap = some out' ∧
          ∀ page a text, t.text? page a = some text →
            (∀ m ∈ TextCell.markers registry ⟨page, a, text⟩, m.IsReference) →
              out.Spares page a → out'.Spares page a →
                ∃ v, out.grid.value? page a = some v ∧ out'.grid.value? page a = some v

/-- Neither reports that are not approved nor the values of the report itself come to light in
references. -/
theorem run?_undisclosed (registry : Registry) (config : Config) (report : Report) :
    Undisclosed registry config report := by
  constructor
  case unapproved => exact fun t m h h' hsame => run?_of_approvedBeside hsame t m
  case ownValues =>
    intro other t h hid hkey hvalidate
    have hvalid : t.Valid := Template.validate_eq_ok_iff.1 hvalidate
    obtain ⟨out, hrun, -, hgrid⟩ := run?_fieldMap hvalid ⟨registry, report, h, config⟩
    obtain ⟨out', hrun', -, hgrid'⟩ := run?_fieldMap hvalid ⟨registry, other, h, config⟩
    refine ⟨out, out', hrun, hrun', fun page a text htext hmarkers hspared hspared' => ?_⟩
    rw [hgrid, value?_tableWrites_of_none (last?_of_spares hspared), hgrid',
      value?_tableWrites_of_none (last?_of_spares hspared')]
    exact exists_value_of_isReference hvalid htext hmarkers hid hkey h

end Generation

end MarkedSheet
