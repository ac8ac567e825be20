import Mathlib.Data.List.Nodup
import Mathlib.Data.List.Pairwise
import MarkedSheet.Marker.Reading
import MarkedSheet.Proofs.Marker.Segments

/-!
# Every opening bracket is accounted for

The segments of a cell give one span each: that of a marker, of a marker without a name, or of a
bracket left open.  A span begins with the opening bracket of its segment and ends within the
segment, so that spans of different segments never meet.
-/

namespace MarkedSheet

/-- Spans without a common byte. -/
def Span.Apart (a b : Span) : Prop :=
  a.stop ≤ b.start ∨ b.stop ≤ a.start

namespace Issue

def unclosedSpan? : Issue → Option Span
  | unclosed span => some span
  | _ => none

def unnamedSpan? : Issue → Option Span
  | unnamed span => some span
  | _ => none

/-- A reported code with the span of its marker. -/
def reportedCode? : Issue → Option (String × Span)
  | unknownCode code span => some (code, span)
  | _ => none

end Issue

/-- The name of a plain marker that is written like a code, with the span of the marker. -/
def Marker.plainCode? (m : Marker) : Option (String × Span) :=
  match m.form with
  | .plain field =>
      if field.name.toList.head? = some '#' then some (field.name, m.span) else none
  | _ => none

namespace Segment

/-- The characters under the span of a segment. -/
def owned (whole : Bool) : Segment → List Char
  | closed content tail => '[' :: (content ++ ']' :: if whole then tail else [])
  | unclosed content => '[' :: content

theorem ownSpan_eq (start : Nat) (whole : Bool) (s : Segment) :
    s.ownSpan start whole = ⟨start, start + Text.width (s.owned whole)⟩ := by
  have hopen : '['.utf8Size = 1 := rfl
  have hclose : ']'.utf8Size = 1 := rfl
  cases s with
  | closed content tail =>
      cases whole with
      | true => rfl
      | false =>
          simp only [ownSpan, owned, Text.width_cons, Text.width_append, Text.width_nil,
            Bool.false_eq_true, if_false, Span.mk.injEq, true_and]
          omega
  | unclosed content => rfl

/-- The span of a segment covers the beginning of the segment. -/
theorem exists_chars_eq_owned (whole : Bool) (s : Segment) :
    ∃ rest, s.chars = s.owned whole ++ rest := by
  cases s with
  | closed content tail =>
      cases whole with
      | true => exact ⟨[], by simp [chars, owned]⟩
      | false => exact ⟨tail, by simp [chars, owned]⟩
  | unclosed content => exact ⟨[], by simp [chars, owned]⟩

theorem ownSpan_start (start : Nat) (whole : Bool) (s : Segment) :
    (s.ownSpan start whole).start = start := by
  rw [ownSpan_eq]

theorem ownSpan_stop_le (start : Nat) (whole : Bool) (s : Segment) :
    (s.ownSpan start whole).stop ≤ start + Text.width s.chars := by
  obtain ⟨rest, hchars⟩ := s.exists_chars_eq_owned whole
  rw [ownSpan_eq, hchars, Text.width_append]
  exact Nat.add_le_add_left (Nat.le_add_right _ _) start

theorem start_lt_ownSpan_stop (start : Nat) (whole : Bool) (s : Segment) :
    start < (s.ownSpan start whole).stop := by
  have hwidth : 0 < Text.width (s.owned whole) :=
    Text.width_pos (by cases s <;> simp [owned])
  rw [ownSpan_eq]
  exact Nat.lt_add_of_pos_right hwidth

/-- Whether the span of a segment is the whole segment rather than its brackets. -/
def givesWhole (r : Registry) (s : Segment) : Bool :=
  (s.form? r).any MarkerForm.ownsTail

/-- The one span that a segment gives, under whichever heading it is listed. -/
def givenSpan (r : Registry) (p : Nat × Segment) : Span :=
  p.2.ownSpan p.1 (p.2.givesWhole r)

/-- A segment is a bracket left open, or a marker without a name, or a marker, which is reported when
it is written like a code.  All three have the same span. -/
theorem open_or_unnamed_or_marker (r : Registry) (p : Nat × Segment) :
    (p.2.marker? r p.1 = none ∧ p.2.issue? r p.1 = none ∧
        p.2.unclosedSpan? p.1 = some (givenSpan r p)) ∨
      (p.2.marker? r p.1 = none ∧ p.2.issue? r p.1 = some (.unnamed (givenSpan r p)) ∧
        p.2.unclosedSpan? p.1 = none) ∨
      ∃ form, p.2.marker? r p.1 = some ⟨form, givenSpan r p⟩ ∧
        p.2.issue? r p.1 = form.unknownCode?.map (fun code => .unknownCode code (givenSpan r p)) ∧
          p.2.unclosedSpan? p.1 = none := by
  obtain ⟨start, s⟩ := p
  cases s with
  | unclosed content => exact Or.inl ⟨rfl, rfl, rfl⟩
  | closed content tail =>
      cases hform : (closed content tail).form? r with
      | none =>
          have hwhole : (closed content tail).givesWhole r = false := by rw [givesWhole, hform]; rfl
          refine Or.inr (Or.inl ⟨?_, ?_, rfl⟩)
          · simp [marker?, hform]
          · simp [issue?, hform, givenSpan, hwhole]
      | some form =>
          have hwhole : (closed content tail).givesWhole r = form.ownsTail := by
            rw [givesWhole, hform]
            rfl
          refine Or.inr (Or.inr ⟨form, ?_, ?_, rfl⟩)
          · simp [marker?, hform, givenSpan, hwhole]
          · simp [issue?, hform, givenSpan, hwhole]

/-- A segment gives one span under one of the three headings and none under the others. -/
theorem spans_eq_givenSpan (r : Registry) (p : Nat × Segment) :
    ((p.2.marker? r p.1).map Marker.span).toList ++
        ((p.2.issue? r p.1).bind Issue.unnamedSpan?).toList ++
          (p.2.unclosedSpan? p.1).toList =
      [givenSpan r p] := by
  rcases open_or_unnamed_or_marker r p with
    ⟨hmarker, hissue, hopen⟩ | ⟨hmarker, hissue, hopen⟩ | ⟨form, hmarker, hissue, hopen⟩
  · rw [hmarker, hissue, hopen]
    rfl
  · rw [hmarker, hissue, hopen]
    rfl
  · rw [hmarker, hissue, hopen]
    cases form.unknownCode? <;> rfl

theorem marker?_span {r : Registry} {p : Nat × Segment} {m : Marker}
    (h : p.2.marker? r p.1 = some m) : m.span = givenSpan r p := by
  have hone := spans_eq_givenSpan r p
  rw [h] at hone
  simp only [Option.map_some, Option.toList_some, List.cons_append, List.nil_append] at hone
  exact (List.cons.inj hone).1

/-- A segment that gives a span under another heading gives no marker. -/
theorem marker?_eq_none_of_other {r : Registry} {p : Nat × Segment} {span : Span}
    (h : (p.2.issue? r p.1).bind Issue.unnamedSpan? = some span ∨
      p.2.unclosedSpan? p.1 = some span) :
    p.2.marker? r p.1 = none ∧ span = givenSpan r p := by
  rcases open_or_unnamed_or_marker r p with
    ⟨hmarker, hissue, hopen⟩ | ⟨hmarker, hissue, hopen⟩ | ⟨form, -, hissue, hopen⟩
  · rw [hissue, hopen] at h
    exact ⟨hmarker, by simpa [eq_comm] using h⟩
  · rw [hissue, hopen] at h
    exact ⟨hmarker, by simpa [Issue.unnamedSpan?, eq_comm] using h⟩
  · rw [hissue, hopen] at h
    cases hcode : form.unknownCode? <;> simp [hcode, Issue.unnamedSpan?] at h

/-- Only a segment with a closing bracket gives a marker. -/
theorem exists_closed_of_marker? {r : Registry} {start : Nat} {s : Segment} {m : Marker}
    (h : s.marker? r start = some m) : ∃ content tail, s = closed content tail := by
  cases s with
  | unclosed content => simp [marker?, form?] at h
  | closed content tail => exact ⟨content, tail, rfl⟩

/-- A code is reported for exactly the plain markers that are written like codes. -/
theorem reportedCode?_issue? (r : Registry) (p : Nat × Segment) :
    (p.2.issue? r p.1).bind Issue.reportedCode? =
      (p.2.marker? r p.1).bind Marker.plainCode? := by
  rcases open_or_unnamed_or_marker r p with
    ⟨hmarker, hissue, -⟩ | ⟨hmarker, hissue, -⟩ | ⟨form, hmarker, hissue, -⟩
  · rw [hmarker, hissue]
    rfl
  · rw [hmarker, hissue]
    rfl
  · rw [hmarker, hissue]
    cases form with
    | registered entry => rfl
    | reference name => rfl
    | plain field =>
        by_cases hcode : field.name.toList.head? = some '#'
        · simp [MarkerForm.unknownCode?, Marker.plainCode?, Issue.reportedCode?, hcode]
        · simp [MarkerForm.unknownCode?, Marker.plainCode?, hcode]

theorem unclosedSpan?_issue? (r : Registry) (p : Nat × Segment) :
    (p.2.issue? r p.1).bind Issue.unclosedSpan? = none := by
  rcases open_or_unnamed_or_marker r p with
    ⟨-, hissue, -⟩ | ⟨-, hissue, -⟩ | ⟨form, -, hissue, -⟩
  · rw [hissue]
    rfl
  · rw [hissue]
    rfl
  · rw [hissue]
    cases form.unknownCode? <;> rfl

end Segment

namespace CellText

/-- The span of a located segment cuts out the characters that it owns. -/
theorem slice?_givenSpan (r : Registry) {text : List Char} {p : Nat × Segment}
    (h : p ∈ (read text).located) :
    Text.slice? (Segment.givenSpan r p).start (Segment.givenSpan r p).stop text =
      some (p.2.owned (p.2.givesWhole r)) := by
  obtain ⟨before, after, htext, hpos, -⟩ := exists_of_mem_located h
  obtain ⟨rest, hchars⟩ := p.2.exists_chars_eq_owned (p.2.givesWhole r)
  rw [Segment.givenSpan, Segment.ownSpan_eq, htext, hpos, hchars, List.append_assoc]
  exact Text.slice?_width before _ (rest ++ after)

/-- The spans of two segments follow each other without overlap. -/
theorem pairwise_givenSpan (r : Registry) (text : List Char) :
    (read text).located.Pairwise fun p q =>
      (Segment.givenSpan r p).start < (Segment.givenSpan r q).start ∧
        (Segment.givenSpan r p).stop ≤ (Segment.givenSpan r q).start := by
  refine (Segment.pairwise_locate _ _).imp fun {p q} hpq => ?_
  have hstop := p.2.ownSpan_stop_le p.1 (p.2.givesWhole r)
  have hlt := p.2.start_lt_ownSpan_stop p.1 (p.2.givesWhole r)
  simp only [Segment.givenSpan, Segment.ownSpan_start]
  omega

/-- The spans of different segments are apart. -/
theorem apart_givenSpan (r : Registry) {text : List Char} {p q : Nat × Segment}
    (hp : p ∈ (read text).located) (hq : q ∈ (read text).located) (hne : p ≠ q) :
    (Segment.givenSpan r p).Apart (Segment.givenSpan r q) := by
  have : Std.Symm fun p q : Nat × Segment =>
      (Segment.givenSpan r p).Apart (Segment.givenSpan r q) := ⟨fun _ _ h => h.symm⟩
  have hapart : (read text).located.Pairwise fun p q =>
      (Segment.givenSpan r p).Apart (Segment.givenSpan r q) :=
    (pairwise_givenSpan r text).imp fun hpq => Or.inl hpq.2
  exact hapart.forall hp hq hne

end CellText

/-- When each element gives a value under exactly one of three headings, the headings together list
one value for each element. -/
theorem perm_map_of_one_heading {α β : Type} [DecidableEq β] {f g h : α → Option β} {k : α → β}
    (hone : ∀ x, (f x).toList ++ (g x).toList ++ (h x).toList = [k x]) (l : List α) :
    (l.filterMap f ++ l.filterMap g ++ l.filterMap h).Perm (l.map k) := by
  refine List.perm_iff_count.2 fun y => ?_
  induction l with
  | nil => rfl
  | cons x l ih =>
      have hx := congrArg (List.count y) (hone x)
      have hcons (e : α → Option β) :
          (x :: l).filterMap e = (e x).toList ++ l.filterMap e := by
        cases hex : e x <;> simp [hex]
      rw [← List.singleton_append (l := l), List.map_append, List.singleton_append]
      simp only [hcons, List.count_append, List.map_cons, List.map_nil] at hx ih ⊢
      omega

namespace Reading

def unnamedSpans (reading : Reading) : List Span :=
  reading.issues.filterMap Issue.unnamedSpan?

def unclosedSpans (reading : Reading) : List Span :=
  reading.issues.filterMap Issue.unclosedSpan?

def spans (reading : Reading) : List Span :=
  reading.markers.map Marker.span ++ reading.unnamedSpans ++ reading.unclosedSpans

theorem unnamedSpans_ofText (r : Registry) (text : List Char) :
    (ofText r text).unnamedSpans =
      (CellText.read text).located.filterMap fun p =>
        (p.2.issue? r p.1).bind Issue.unnamedSpan? := by
  have hunclosed (spans : List Span) :
      (spans.map Issue.unclosed).filterMap Issue.unnamedSpan? = [] := by
    simp [Issue.unnamedSpan?]
  rw [unnamedSpans, ofText, List.filterMap_append, hunclosed, List.nil_append,
    List.filterMap_filterMap]

theorem unclosedSpans_ofText (r : Registry) (text : List Char) :
    (ofText r text).unclosedSpans =
      (CellText.read text).located.filterMap fun p => p.2.unclosedSpan? p.1 := by
  have hunclosed (spans : List Span) :
      (spans.map Issue.unclosed).filterMap Issue.unclosedSpan? = spans := by
    simp [List.filterMap_map, Function.comp_def, Issue.unclosedSpan?]
  rw [unclosedSpans, ofText, List.filterMap_append, hunclosed, List.filterMap_filterMap,
    CellText.unclosed]
  simp [Segment.unclosedSpan?_issue?]

theorem reportedCodes_ofText (r : Registry) (text : List Char) :
    (ofText r text).issues.filterMap Issue.reportedCode? =
      (ofText r text).markers.filterMap Marker.plainCode? := by
  have hunclosed (spans : List Span) :
      (spans.map Issue.unclosed).filterMap Issue.reportedCode? = [] := by
    simp [Issue.reportedCode?]
  simp only [ofText, List.filterMap_append, hunclosed, List.nil_append, List.filterMap_filterMap,
    Segment.reportedCode?_issue?]

/-- A reading lists one span for each segment of its text. -/
theorem spans_ofText (r : Registry) (text : List Char) :
    (ofText r text).spans.Perm ((CellText.read text).located.map (Segment.givenSpan r)) := by
  rw [spans, unnamedSpans_ofText, unclosedSpans_ofText, ofText, List.map_filterMap]
  exact perm_map_of_one_heading (Segment.spans_eq_givenSpan r) _

/-- A marker of a reading comes from a segment and has the span of that segment. -/
theorem exists_segment_of_mem_markers {r : Registry} {text : List Char} {m : Marker}
    (h : m ∈ (ofText r text).markers) :
    ∃ p ∈ (CellText.read text).located,
      p.2.marker? r p.1 = some m ∧ m.span = Segment.givenSpan r p := by
  obtain ⟨p, hp, hm⟩ := List.mem_filterMap.1 h
  exact ⟨p, hp, hm, Segment.marker?_span hm⟩

/-- The span of a marker cuts a text that begins with an opening bracket out of the cell. -/
theorem exists_slice?_of_mem_markers {r : Registry} {text : List Char} {m : Marker}
    (h : m ∈ (ofText r text).markers) :
    m.span.start < m.span.stop ∧
      ∃ body, Text.slice? m.span.start m.span.stop text = some ('[' :: body) := by
  obtain ⟨p, hp, hpm, hspan⟩ := exists_segment_of_mem_markers h
  obtain ⟨content, tail, hclosed⟩ := Segment.exists_closed_of_marker? hpm
  have hcut := CellText.slice?_givenSpan r hp
  rw [hclosed, Segment.owned] at hcut
  rw [hspan]
  refine ⟨?_, _, hcut⟩
  rw [Segment.givenSpan, Segment.ownSpan_start]
  exact p.2.start_lt_ownSpan_stop p.1 _

/-- The markers stand in the order of the text and do not overlap. -/
theorem pairwise_markers (r : Registry) (text : List Char) :
    (ofText r text).markers.Pairwise fun m n =>
      m.span.start < n.span.start ∧ m.span.stop ≤ n.span.start := by
  refine (CellText.pairwise_givenSpan r text).filterMap _ fun p q hpq m hm n hn => ?_
  rw [Segment.marker?_span hm, Segment.marker?_span hn]
  exact hpq

/-- A span that is no marker's comes from a segment without a marker. -/
theorem exists_segment_of_mem_other {r : Registry} {text : List Char} {span : Span}
    (h : span ∈ (ofText r text).unnamedSpans ++ (ofText r text).unclosedSpans) :
    ∃ p ∈ (CellText.read text).located,
      p.2.marker? r p.1 = none ∧ span = Segment.givenSpan r p := by
  rw [unnamedSpans_ofText, unclosedSpans_ofText, List.mem_append, List.mem_filterMap,
    List.mem_filterMap] at h
  obtain ⟨p, hp, hspan⟩ | ⟨p, hp, hspan⟩ := h
  · exact ⟨p, hp, Segment.marker?_eq_none_of_other (Or.inl hspan)⟩
  · exact ⟨p, hp, Segment.marker?_eq_none_of_other (Or.inr hspan)⟩

/-- How a reading accounts for the opening brackets of its text. -/
structure AccountsFor (reading : Reading) (text : List Char) : Prop where
  /-- Every opening bracket begins exactly one span, under exactly one heading. -/
  opening : ∀ before after, text = before ++ '[' :: after →
    (reading.spans.countP fun span => span.start = Text.width before) = 1
  total : reading.markers.length + reading.unnamedSpans.length + reading.unclosedSpans.length =
    text.count '['
  /-- Every span cuts a text that begins with an opening bracket out of the cell. -/
  cut : ∀ span ∈ reading.spans, span.start < span.stop ∧
    ∃ body, Text.slice? span.start span.stop text = some ('[' :: body)
  ordered : reading.markers.Pairwise fun m n =>
    m.span.start < n.span.start ∧ m.span.stop ≤ n.span.start
  apart : ∀ m ∈ reading.markers, ∀ span ∈ reading.unnamedSpans ++ reading.unclosedSpans,
    m.span.Apart span
  /-- The first bracket after the opening one is the closing one, and the span covers it. -/
  closing : ∀ m ∈ reading.markers, ∃ content tail, '[' ∉ content ∧ ']' ∉ content ∧
    Text.slice? m.span.start m.span.stop text = some ('[' :: (content ++ ']' :: tail))
  codes : reading.issues.filterMap Issue.reportedCode? =
    reading.markers.filterMap Marker.plainCode?

theorem countP_spans_ofText (r : Registry) (before after : List Char) :
    ((ofText r (before ++ '[' :: after)).spans.countP fun span =>
      span.start = Text.width before) = 1 := by
  let text := before ++ '[' :: after
  have hnodup : (Text.positions '[' 0 text).Nodup :=
    (Text.positions_pairwise_lt '[' 0 text).imp Nat.ne_of_lt
  have hmem : Text.width before ∈ Text.positions '[' 0 text :=
    Text.mem_positions_iff.2 ⟨before, after, rfl, by simp⟩
  -- Spans begin where segments do, and segments begin at the brackets.
  calc
    ((ofText r text).spans.countP fun span => span.start = Text.width before) =
        ((CellText.read text).located.map (Segment.givenSpan r)).countP
          fun span => span.start = Text.width before :=
      (spans_ofText r text).countP_eq _
    _ = ((CellText.read text).located.map Prod.fst).count (Text.width before) := by
      rw [List.countP_map, List.count_eq_countP, List.countP_map]
      refine List.countP_congr fun p _ => ?_
      simp [Segment.givenSpan, Segment.ownSpan_start]
    _ = 1 := by
      rw [← CellText.positions_eq_located]
      exact List.count_eq_one_of_mem hnodup hmem

/-- Markers, markers without a name and open brackets together are the opening brackets. -/
theorem ofText_accountsFor (r : Registry) (text : List Char) :
    (ofText r text).AccountsFor text where
  opening := by
    rintro before after rfl
    exact countP_spans_ofText r before after
  total := by
    have hlength := (spans_ofText r text).length_eq
    rw [spans, List.length_append, List.length_append, List.length_map, List.length_map] at hlength
    rw [hlength, ← Text.length_positions '[' 0, CellText.positions_eq_located, List.length_map]
  cut := by
    intro span hspan
    obtain ⟨p, hp, rfl⟩ := List.mem_map.1 ((spans_ofText r text).mem_iff.1 hspan)
    have hcut := CellText.slice?_givenSpan r hp
    refine ⟨?_, ?_⟩
    · rw [Segment.givenSpan, Segment.ownSpan_start]
      exact p.2.start_lt_ownSpan_stop p.1 _
    · rw [hcut]
      cases p.2 with
      | closed content tail => exact ⟨_, rfl⟩
      | unclosed content => exact ⟨_, rfl⟩
  ordered := pairwise_markers r text
  apart := by
    intro m hm span hspan
    obtain ⟨p, hp, hpm, hmspan⟩ := exists_segment_of_mem_markers hm
    obtain ⟨q, hq, hqm, rfl⟩ := exists_segment_of_mem_other hspan
    have hne : p ≠ q := by
      rintro rfl
      rw [hpm] at hqm
      exact Option.some_ne_none m hqm
    rw [hmspan]
    exact CellText.apart_givenSpan r hp hq hne
  closing := by
    intro m hm
    obtain ⟨p, hp, hpm, hmspan⟩ := exists_segment_of_mem_markers hm
    obtain ⟨before, after, -, -, hproper⟩ := CellText.exists_of_mem_located hp
    have hcut := CellText.slice?_givenSpan r hp
    obtain ⟨content, tail, hclosed⟩ := Segment.exists_closed_of_marker? hpm
    rw [hclosed] at hproper
    rw [hmspan, hcut, hclosed]
    exact ⟨content, _, hproper.1, hproper.2.1, rfl⟩
  codes := reportedCodes_ofText r text

end Reading

end MarkedSheet
