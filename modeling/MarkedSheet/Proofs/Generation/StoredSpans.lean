import MarkedSheet.Proofs.Document.FieldMaps
import MarkedSheet.Proofs.Generation.Runs

/-!
# Spans from stored field maps

The spans of a stored field map are not measured against the text again.  A span that overlaps what
was replaced before it, or that ends past the text, is passed over; one that ends before it begins is
carried out like any other.  Filling in fails exactly where a span that is carried out begins or ends
inside a character, or begins past the text.  What the report, the history and the configuration hold
makes no difference to that.
-/

namespace MarkedSheet

/-- Both ends of a span are boundaries of a text. -/
def Span.Fits (s : Span) (text : List Char) : Prop :=
  Text.IsBoundary s.start text ∧ Text.IsBoundary s.stop text

instance (s : Span) (text : List Char) : Decidable (s.Fits text) :=
  inferInstanceAs (Decidable (_ ∧ _))

namespace Substitution

/-- The spans that are carried out from a position on in a text of some width.  The others begin
before the end of the one before them, or end past the text. -/
def carriedOut (width cursor : Nat) : List Span → List Span
  | [] => []
  | s :: rest =>
      if s.start < cursor ∨ width < s.stop then carriedOut width cursor rest
      else s :: carriedOut width s.stop rest

theorem of_mem_carriedOut {width cursor : Nat} {spans : List Span} {s : Span}
    (h : s ∈ carriedOut width cursor spans) : s ∈ spans ∧ s.stop ≤ width := by
  induction spans generalizing cursor with
  | nil => cases h
  | cons first rest ih =>
      rw [carriedOut] at h
      split at h
      · exact ⟨List.mem_cons_of_mem _ (ih h).1, (ih h).2⟩
      · next hkept =>
          rcases List.mem_cons.1 h with rfl | h
          · exact ⟨List.mem_cons_self, by omega⟩
          · exact ⟨List.mem_cons_of_mem _ (ih h).1, (ih h).2⟩

/-- A substitution succeeds exactly when it starts at a boundary and every span that is carried out
fits the text. -/
theorem isSome_substituteFrom?_iff {text : List Char} {cursor : Nat}
    {replacements : List Replacement} :
    (substituteFrom? text cursor replacements).isSome ↔
      Text.IsBoundary cursor text ∧
        ∀ s ∈ carriedOut (Text.width text) cursor (replacements.map Replacement.span),
          s.Fits text := by
  induction replacements generalizing cursor with
  | nil => simp [substituteFrom?, carriedOut, Text.isSome_after?_iff]
  | cons r rest ih =>
      rw [List.map_cons, substituteFrom?, carriedOut]
      split
      · exact ih
      · next hkept =>
          have hle : cursor ≤ r.span.start := by omega
          -- The piece before the span and the rest of the text are both needed.
          have hstep : ((Text.slice? cursor r.span.start text).bind fun between =>
              (substituteFrom? text r.span.stop rest).map fun after =>
                between ++ (r.value.display.toList ++ after)).isSome ↔
              (Text.slice? cursor r.span.start text).isSome ∧
                (substituteFrom? text r.span.stop rest).isSome := by
            cases Text.slice? cursor r.span.start text <;> simp
          rw [hstep, Text.isSome_slice?_iff, ih, List.forall_mem_cons]
          unfold Span.Fits
          constructor
          · rintro ⟨⟨-, hcursor, hstart⟩, hstop, hrest⟩
            exact ⟨hcursor, ⟨hstart, hstop⟩, hrest⟩
          · rintro ⟨hcursor, ⟨hstart, hstop⟩, hrest⟩
            exact ⟨⟨hle, hcursor, hstart⟩, hstop, hrest⟩

/-- A cell gets a value exactly when it holds nothing but one marker or all its spans that are
carried out fit its text. -/
theorem isSome_compose?_iff {text : List Char} {replacements : List Replacement} :
    (compose? text replacements).isSome ↔
      (∃ r, replacements = [r] ∧ isAlone text r.span = true) ∨
        ∀ s ∈ carriedOut (Text.width text) 0 (replacements.map Replacement.span),
          s.Fits text := by
  have hsubstitute : (substitute? text replacements).isSome ↔
      ∀ s ∈ carriedOut (Text.width text) 0 (replacements.map Replacement.span), s.Fits text := by
    rw [substitute?, Option.isSome_map, isSome_substituteFrom?_iff]
    exact and_iff_right (Text.isBoundary_zero text)
  rw [← hsubstitute, compose?.eq_def]
  split
  · next r =>
      by_cases halone : isAlone text r.span = true
      · simp [halone]
      · simp [halone]
  · next hmany =>
      constructor
      · exact Or.inr
      · rintro (⟨r, rfl, -⟩ | h)
        · exact absurd rfl (hmany r)
        · exact h

end Substitution

/-- The text of a cell can be cut where its fields want it: it holds nothing but one marker, or the
spans that are carried out fit it. -/
def CellGroup.WellCut (g : CellGroup) : Prop :=
  (∃ d, g.fields = [d] ∧ Substitution.isAlone g.text.toList d.span = true) ∨
    ∀ s ∈ Substitution.carriedOut (Text.width g.text.toList) 0 (g.fields.map Descriptor.span),
      s.Fits g.text.toList

namespace Generation

variable {ctx : Context}

theorem isSome_cellValue?_iff {g : CellGroup} :
    (cellValue? ctx g).isSome ↔ ((∀ d ∈ g.fields, d.isResolvable = true) → g.WellCut) := by
  rw [cellValue?]
  by_cases hfields : g.fields.all Descriptor.isResolvable = true
  · have hspans : (g.fields.map (replacement ctx)).map Replacement.span =
        g.fields.map Descriptor.span := by
      rw [List.map_map]
      rfl
    have halone : (∃ r, g.fields.map (replacement ctx) = [r] ∧
        Substitution.isAlone g.text.toList r.span = true) ↔
          ∃ d, g.fields = [d] ∧ Substitution.isAlone g.text.toList d.span = true := by
      constructor
      · rintro ⟨r, hr, halone⟩
        obtain ⟨d, hd, rfl⟩ := List.map_eq_singleton_iff.1 hr
        exact ⟨d, hd, halone⟩
      · rintro ⟨d, hd, halone⟩
        exact ⟨replacement ctx d, by rw [hd]; rfl, halone⟩
    rw [if_pos hfields, Substitution.isSome_compose?_iff, hspans, halone]
    rw [List.all_eq_true] at hfields
    exact ⟨fun h _ => h, fun h => h hfields⟩
  · rw [if_neg hfields]
    rw [List.all_eq_true] at hfields
    exact ⟨fun _ h => absurd h hfields, fun _ => rfl⟩

/-- Cells are filled in when every cell on a page of the grid gets a value. -/
theorem isSome_fillCells?_iff {grid : FilledGrid} {groups : List CellGroup} :
    (fillCells? ctx grid groups).isSome ↔
      ∀ g ∈ groups, g.page ∈ grid.names → (cellValue? ctx g).isSome := by
  induction groups generalizing grid with
  | nil => simp [fillCells?]
  | cons g rest ih =>
      rw [fillCells?, List.forall_mem_cons, ← FilledGrid.page?_isSome_iff]
      cases hpage : grid.page? g.page with
      | none => simpa using ih
      | some page =>
          cases hvalue : cellValue? ctx g with
          | none => simp
          | some v =>
              have hnames : (grid.set g.page g.cell v).names = grid.names := grid.names_set ..
              have hrest := @ih (grid.set g.page g.cell v)
              rw [hnames] at hrest
              simpa using hrest

/-- A template can be filled in by a field map exactly when the cells of its pages that take values
can be cut.  It is enough that the spans that end within their text begin and end between
characters, however they overlap. -/
theorem isSome_run?_iff_wellCut (ctx : Context) (t : Template) (m : FieldMap) :
    ((run? ctx t m).isSome ↔
        ∀ g ∈ m.cells, g.page ∈ t.pages.map Page.id →
          (∀ d ∈ g.fields, d.isResolvable = true) → g.WellCut) ∧
      ((∀ g ∈ m.cells, ∀ d ∈ g.fields,
          d.span.stop ≤ Text.width g.text.toList → d.span.Fits g.text.toList) →
        (run? ctx t m).isSome) := by
  have hiff : (run? ctx t m).isSome ↔
      ∀ g ∈ m.cells, g.page ∈ t.pages.map Page.id →
        (∀ d ∈ g.fields, d.isResolvable = true) → g.WellCut := by
    rw [run?, Option.isSome_map, isSome_fillCells?_iff, FilledGrid.names_ofTemplate]
    simp only [isSome_cellValue?_iff]
  refine ⟨hiff, fun hfits => hiff.2 fun g hg _ _ => Or.inr fun s hs => ?_⟩
  obtain ⟨hspan, hstop⟩ := Substitution.of_mem_carriedOut hs
  obtain ⟨d, hd, rfl⟩ := List.mem_map.1 hspan
  exact hfits g hg d hd hstop

def singleTemplate : Template :=
  ⟨"t", [(Page.new "p").withCell ⟨1, 1⟩ "x"]⟩

def singleContext : Context :=
  ⟨Registry.standard, { Report.new "r" with fieldValues := [("a", .text "v")] },
    History.ofReports [], Config.standard⟩

/-- A field map of one cell with a plain field for each of these spans. -/
def spansMap (text : String) (spans : List Span) : FieldMap :=
  ⟨"t", spans.map fun s => Marker.describe "p" ⟨1, 1⟩ text ⟨.plain ⟨"a", none, none, true⟩, s⟩, []⟩

/-- Spans that overlap, end before they begin or lie outside the text do no harm. -/
theorem spansMap_fills :
    (run? singleContext singleTemplate
      (spansMap "[a] [b]" [⟨0, 5⟩, ⟨3, 7⟩, ⟨6, 2⟩, ⟨4, 90⟩])).isSome :=
  (isSome_run?_iff_wellCut singleContext singleTemplate _).2 (by decide)

/-- A stored field map has a span that begins inside the first character of its cell, and the
template cannot be filled in by it. -/
theorem spansMap_breaks :
    FieldMap.ofToml (spansMap "é x" [⟨1, 3⟩]).toToml = .ok (spansMap "é x" [⟨1, 3⟩]) ∧
      run? singleContext singleTemplate (spansMap "é x" [⟨1, 3⟩]) = none := by
  constructor
  · exact FieldMap.ofToml_of_storable ⟨by decide, by decide, by decide⟩
  · decide

end Generation

end MarkedSheet
