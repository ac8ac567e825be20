import MarkedSheet.Marker.Reading
import MarkedSheet.Proofs.Marker.Grammar
import MarkedSheet.Proofs.Text.Runs

/-!
# Markers from the brackets of the grammar

The grammar says where the brackets of a cell are, and what stands between them and behind them can
be cut out of the text at these positions.  No such cut goes through a character, and the markers and
issues that come of it are those of the reading by segments.
-/

namespace MarkedSheet

/-- Segments begin with an opening bracket. -/
theorem Segment.head_flatMap_chars (segments : List Segment) :
    ∀ c ∈ (segments.flatMap chars).head?, c = '[' := by
  cases segments with
  | nil => simp
  | cons s segments => cases s <;> simp [chars, eq_comm]

/-- A marker ends behind its closing bracket, or behind the text that follows the bracket. -/
theorem Segment.ownSpan_closed (start : Nat) (whole : Bool) (content tail : List Char) :
    (closed content tail).ownSpan start whole =
      ⟨start, if whole then start + 1 + Text.width content + 1 + Text.width tail
        else start + 1 + Text.width content + 1⟩ := by
  cases whole with
  | false =>
      simp only [ownSpan, Bool.false_eq_true, if_false, Span.mk.injEq, true_and]
      omega
  | true =>
      simp only [ownSpan, span, chars, if_true, Span.mk.injEq, true_and, Text.width_cons,
        Text.width_append, Text.utf8Size_opening, Text.utf8Size_closing]
      omega

namespace Reading

/-- A reading with what the marker between two brackets adds to it.  Nothing comes of a cut through a
character. -/
def addMarker? (r : Registry) (text : List Char) (soFar : Reading) (b : Brackets) :
    Option Reading := do
  let rest ← Text.after? b.closing.stop text
  let stop := b.closing.stop + Text.width (rest.takeWhile fun c => c ≠ '[')
  let content ← Text.slice? b.opening.stop b.closing.start text
  let tail ← Text.slice? b.closing.stop stop text
  match MarkerForm.ofContent? r (Text.trim content) tail with
  | none =>
      return { soFar with
        issues := soFar.issues ++ [.unnamed ⟨b.opening.start, b.closing.stop⟩] }
  | some form =>
      let span : Span := ⟨b.opening.start, if form.ownsTail then stop else b.closing.stop⟩
      let unknown? := form.unknownCode?.map fun code => Issue.unknownCode code span
      return ⟨soFar.markers ++ [⟨form, span⟩], soFar.issues ++ unknown?.toList⟩

/-- The markers and issues of a cell by the report of its grammar, marker after marker. -/
def ofReport? (r : Registry) (text : List Char) : Option Reading :=
  (CellGrammar.report? text).bind fun report =>
    report.brackets.foldlM (addMarker? r text) ⟨[], report.unclosed.map Issue.unclosed⟩

variable {r : Registry} {text : List Char} {start : Nat} {content tail : List Char}

/-- What can be cut out of a text around the brackets of a segment. -/
theorem slices_of_mem_located
    (h : (start, Segment.closed content tail) ∈ (CellText.read text).located) :
    Text.slice? (start + 1) (start + 1 + Text.width content) text = some content ∧
      ∃ rest, Text.after? (start + 1 + Text.width content + 1) text = some rest ∧
        rest.takeWhile (fun c => c ≠ '[') = tail ∧
          Text.slice? (start + 1 + Text.width content + 1)
            (start + 1 + Text.width content + 1 + Text.width tail) text = some tail := by
  obtain ⟨before, segments, htext, hstart, -, -, htail⟩ :=
    CellText.exists_segments_of_mem_located h
  obtain rfl : start = Text.width before := hstart
  have hcontent : text = (before ++ ['[']) ++
      (content ++ (']' :: tail ++ segments.flatMap Segment.chars)) := by
    rw [htext]
    simp [Segment.chars]
  have hrest : text = (before ++ '[' :: content ++ [']']) ++
      (tail ++ segments.flatMap Segment.chars) := by
    rw [htext]
    simp [Segment.chars]
  have hopened : Text.width before + 1 = Text.width (before ++ ['[']) := by simp
  have hclosed : Text.width before + 1 + Text.width content + 1 =
      Text.width (before ++ '[' :: content ++ [']']) := by
    simp
    omega
  refine ⟨?_, tail ++ segments.flatMap Segment.chars, ?_, ?_, ?_⟩
  · rw [hopened, ← Text.width_append]
    exact Text.slice?_eq_some_iff.2 ⟨_, _, hcontent, rfl, by rw [Text.width_append]⟩
  · rw [hclosed]
    conv_lhs => rw [hrest]
    exact Text.after?_width _ _
  · -- The next segment begins with its opening bracket.
    refine Text.takeWhile_run (fun c hc => ?_) fun c hc => ?_
    · rw [decide_eq_true_eq]
      rintro rfl
      exact htail hc
    · simpa using Segment.head_flatMap_chars segments c hc
  · rw [hclosed]
    exact Text.slice?_eq_some_iff.2 ⟨_, _, hrest, rfl, rfl⟩

/-- A located segment adds its marker and its issue, if it has both brackets. -/
theorem foldlM_brackets?_of_mem_located {p : Nat × Segment} (h : p ∈ (CellText.read text).located)
    (soFar : Reading) :
    (p.2.brackets? p.1).toList.foldlM (addMarker? r text) soFar =
      some ⟨soFar.markers ++ (p.2.marker? r p.1).toList,
        soFar.issues ++ (p.2.issue? r p.1).toList⟩ := by
  obtain ⟨start, s⟩ := p
  cases s with
  | unclosed content =>
      change some soFar = some ⟨soFar.markers ++ [], soFar.issues ++ []⟩
      rw [List.append_nil, List.append_nil]
  | closed content tail =>
      obtain ⟨hcontent, rest, hrest, htake, htail⟩ := slices_of_mem_located h
      change (addMarker? r text soFar ⟨⟨start, start + 1⟩, ⟨start + 1 + Text.width content,
        start + 1 + Text.width content + 1⟩⟩ >>= fun added => some added) = _
      simp only [addMarker?, hrest, htake, hcontent, htail, Option.bind_eq_bind, Option.bind_some,
        Segment.marker?, Segment.issue?, Segment.form?]
      cases MarkerForm.ofContent? r (Text.trim content) tail with
      | none => simp [Segment.ownSpan_closed]
      | some form => simp [Segment.ownSpan_closed]

theorem foldlM_brackets {located : List (Nat × Segment)}
    (h : ∀ p ∈ located, p ∈ (CellText.read text).located) (soFar : Reading) :
    (located.filterMap fun p => p.2.brackets? p.1).foldlM (addMarker? r text) soFar =
      some ⟨soFar.markers ++ located.filterMap fun p => p.2.marker? r p.1,
        soFar.issues ++ located.filterMap fun p => p.2.issue? r p.1⟩ := by
  simp only [List.filterMap_eq_flatMap_toList]
  induction located generalizing soFar with
  | nil => simp
  | cons p located ih =>
      obtain ⟨hp, hlocated⟩ := List.forall_mem_cons.1 h
      rw [List.flatMap_cons, List.foldlM_append, foldlM_brackets?_of_mem_located hp,
        Option.bind_eq_bind, Option.bind_some, ih hlocated]
      simp

/-- The brackets of the grammar give the reading of the cell. -/
theorem ofReport?_eq_some (r : Registry) (text : List Char) :
    ofReport? r text = some (ofText r text) := by
  have hreport := (CellGrammar.report?_describes.2 text).2.1
  rw [ofReport?, hreport, Option.bind_some, CellText.brackets]
  exact foldlM_brackets (fun p hp => hp) _

end Reading

end MarkedSheet
