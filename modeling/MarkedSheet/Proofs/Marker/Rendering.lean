import MarkedSheet.Marker.Reading
import MarkedSheet.Proofs.Marker.Accounting
import MarkedSheet.Proofs.Marker.PlainFields
import MarkedSheet.Proofs.Registry.Lookup
import MarkedSheet.Proofs.Text.Trimmed

/-!
# Markers written out and read back

Names, defaults and hints are phrases: texts without blanks at their ends that avoid the characters
which would end them.  A cell composed of a literal lead and of markers written out in any of their
forms is read back as these markers, with nothing to report.
-/

namespace MarkedSheet

/-- A nonempty text without blanks at its ends and without the barred characters. -/
structure Phrase (barred : List Char) where
  chars : List Char
  filled : chars ≠ []
  trimmed : Text.trim chars = chars
  free : ∀ c ∈ barred, c ∉ chars

/-- A text that opens no marker. -/
structure Literal where
  chars : List Char
  free : '[' ∉ chars

/-- A name that is written neither like a code nor like a reference. -/
structure FieldName extends Phrase ['[', ']'] where
  no_code : chars.head? ≠ some '#'
  no_reference : chars.head? ≠ some '*'

/-- An entry of a registry whose code can stand between brackets. -/
structure WritableEntry (r : Registry) where
  entry : Entry
  known : entry ∈ r.entries
  trimmed : Text.trim entry.code.toList = entry.code.toList
  free : '[' ∉ entry.code.toList ∧ ']' ∉ entry.code.toList

/-- A marker to be written out, with the literal text behind it. -/
inductive MarkerSource (r : Registry) where
  /-- The form `[name]default;(hint)`. -/
  | full (name : FieldName) (default? : Option (Phrase ['[', ';']))
      (hint? : Option (Phrase ['[', ')']))
  /-- The form `[name]default(hint)`. -/
  | short (name : FieldName) (default? : Option (Phrase ['[', ';', '(']))
      (hint? : Option (Phrase ['[', ';', ')']))
  /-- The form `[*name]`. -/
  | reference (name : Phrase ['[', ']']) (after : Literal)
  /-- The form `[#code]`. -/
  | registered (code : WritableEntry r) (after : Literal)

namespace Phrase

variable {barred : List Char}

def text (p : Phrase barred) : String :=
  String.ofList p.chars

/-- The characters of a phrase that may be missing. -/
def optional : Option (Phrase barred) → List Char
  | none => []
  | some p => p.chars

/-- The group around a phrase that may be missing. -/
def group : Option (Phrase barred) → List Char
  | none => []
  | some p => '(' :: (p.chars ++ [')'])

theorem trimmed?_optional (p? : Option (Phrase barred)) :
    Text.trimmed? (optional p?) = p?.map text := by
  cases p? with
  | none => rfl
  | some p => exact Text.trimmed?_eq_some p.filled p.trimmed

theorem not_mem_optional {d : Char} (h : d ∈ barred) (p? : Option (Phrase barred)) :
    d ∉ optional p? := by
  cases p? with
  | none => simp [optional]
  | some p => exact p.free d h

theorem not_mem_group {d : Char} (h : d ∈ barred) (hopen : d ≠ '(') (hclose : d ≠ ')')
    (p? : Option (Phrase barred)) : d ∉ group p? := by
  cases p? with
  | none => simp [group]
  | some p => simp [group, hopen, hclose, p.free d h]

/-- A phrase that is its own first group is found behind text without a parenthesis. -/
theorem firstGroup?_group (h : ')' ∈ barred) {before : List Char} (hbefore : '(' ∉ before)
    (p? : Option (Phrase barred)) :
    PlainField.firstGroup? (before ++ group p?) = p?.map text := by
  cases p? with
  | none =>
      rw [group, List.append_nil, PlainField.firstGroup?,
        Text.splitAtFirst?_eq_none_iff.2 hbefore]
      rfl
  | some p =>
      rw [group, PlainField.firstGroup?, Text.splitAtFirst?_append _ hbefore]
      change Text.trimmed? ((p.chars ++ [')']).takeWhile (· != ')')) = some p.text
      rw [PlainField.takeWhile_inside (p.free ')' h) rfl]
      exact Text.trimmed?_eq_some p.filled p.trimmed

end Phrase

namespace PlainField

theorem outsideGroups_group {barred : List Char} (h : ')' ∈ barred) (p? : Option (Phrase barred)) :
    outsideGroups false (Phrase.group p?) = [] := by
  cases p? with
  | none => rfl
  | some p =>
      have hinside := outsideGroups_inside [] (p.free ')' h)
      simpa [Phrase.group, outsideGroups] using hinside

/-- With a semicolon, the phrase before it is the default and the group behind it the hint. -/
theorem read_full (name : String) (default? : Option (Phrase ['[', ';']))
    (hint? : Option (Phrase ['[', ')'])) :
    read name (Phrase.optional default? ++ ';' :: Phrase.group hint?) =
      ⟨name, default?.map Phrase.text, hint?.map Phrase.text, default?.isNone⟩ := by
  have hsplit := Text.splitAtFirst?_append (Phrase.group hint?)
    (Phrase.not_mem_optional (d := ';') (by simp) default?)
  have hdefault : defaultOf (Phrase.optional default? ++ ';' :: Phrase.group hint?) =
      default?.map Phrase.text := by
    rw [defaultOf, hsplit]
    exact Phrase.trimmed?_optional default?
  have hhint : hintOf (Phrase.optional default? ++ ';' :: Phrase.group hint?) =
      hint?.map Phrase.text := by
    rw [hintOf, hsplit]
    exact Phrase.firstGroup?_group (by simp) (List.not_mem_nil) hint?
  rw [read, hdefault, hhint, Option.isNone_map]

/-- Without a semicolon, the phrase outside the group is the default. -/
theorem read_short (name : String) (default? : Option (Phrase ['[', ';', '(']))
    (hint? : Option (Phrase ['[', ';', ')'])) :
    read name (Phrase.optional default? ++ Phrase.group hint?) =
      ⟨name, default?.map Phrase.text, hint?.map Phrase.text, default?.isNone⟩ := by
  have hopen : '(' ∉ Phrase.optional default? := Phrase.not_mem_optional (by simp) default?
  have hsemicolon : ';' ∉ Phrase.optional default? ++ Phrase.group hint? := by
    rw [List.mem_append, not_or]
    exact ⟨Phrase.not_mem_optional (by simp) default?,
      Phrase.not_mem_group (by simp) (by decide) (by decide) hint?⟩
  have hsplit := Text.splitAtFirst?_eq_none_iff.2 hsemicolon
  have hdefault : defaultOf (Phrase.optional default? ++ Phrase.group hint?) =
      default?.map Phrase.text := by
    rw [defaultOf, hsplit]
    simp only [outsideGroups_append _ hopen, outsideGroups_group (by simp) hint?, List.append_nil]
    exact Phrase.trimmed?_optional default?
  have hhint : hintOf (Phrase.optional default? ++ Phrase.group hint?) =
      hint?.map Phrase.text := by
    rw [hintOf, hsplit]
    exact Phrase.firstGroup?_group (by simp) hopen hint?
  rw [read, hdefault, hhint, Option.isNone_map]

end PlainField

namespace MarkerForm

theorem ofContent?_plain (r : Registry) {content : List Char} (tail : List Char)
    (hfilled : content ≠ []) (hcode : content.head? ≠ some '#')
    (hreference : content.head? ≠ some '*') :
    ofContent? r content tail = some (plain (PlainField.read (String.ofList content) tail)) := by
  unfold ofContent?
  split
  · exact absurd rfl hfilled
  · exact absurd rfl hcode
  · exact absurd rfl hreference
  · rfl

theorem ofContent?_reference (r : Registry) {name : List Char} (tail : List Char)
    (hfilled : name ≠ []) (htrimmed : Text.trim name = name) :
    ofContent? r ('*' :: name) tail = some (reference (String.ofList name)) := by
  rw [ofContent?, Text.trimmed?_eq_some hfilled htrimmed]
  rfl

theorem ofContent?_registered {r : Registry} {e : Entry} (tail : List Char)
    (h : e ∈ r.entries) : ofContent? r e.code.toList tail = some (registered e) := by
  have hmarked := r.marked e h
  have hlookup := r.lookup_eq_some_iff.2 ⟨h, rfl⟩
  rw [Entry.isMarked, decide_eq_true_iff] at hmarked
  cases hcode : e.code.toList with
  | nil => simp [hcode] at hmarked
  | cons c cs =>
      obtain rfl : c = '#' := by simpa [hcode] using hmarked
      rw [ofContent?, ← hcode, String.ofList_toList, hlookup]

end MarkerForm

namespace MarkerSource

variable {r : Registry}

def content : MarkerSource r → List Char
  | full name _ _ => name.chars
  | short name _ _ => name.chars
  | reference name _ => '*' :: name.chars
  | registered code _ => code.entry.code.toList

def tail : MarkerSource r → List Char
  | full _ default? hint? => Phrase.optional default? ++ ';' :: Phrase.group hint?
  | short _ default? hint? => Phrase.optional default? ++ Phrase.group hint?
  | reference _ after => after.chars
  | registered _ after => after.chars

/-- The marker as it is written out. -/
def chars (s : MarkerSource r) : List Char :=
  '[' :: (s.content ++ ']' :: s.tail)

/-- The part of the marker that its value replaces: all of a plain marker, and the brackets of the
others. -/
def owned : MarkerSource r → List Char
  | full name default? hint? => (full name default? hint? : MarkerSource r).chars
  | short name default? hint? => (short name default? hint? : MarkerSource r).chars
  | reference name after => '[' :: ((reference name after : MarkerSource r).content ++ [']'])
  | registered code after => '[' :: ((registered code after).content ++ [']'])

def form : MarkerSource r → MarkerForm
  | full name default? hint? =>
      .plain ⟨name.text, default?.map Phrase.text, hint?.map Phrase.text, default?.isNone⟩
  | short name default? hint? =>
      .plain ⟨name.text, default?.map Phrase.text, hint?.map Phrase.text, default?.isNone⟩
  | reference name _ => .reference name.text
  | registered code _ => .registered code.entry

/-- The markers written out one after the other from position `start` on. -/
def markers (start : Nat) : List (MarkerSource r) → List Marker
  | [] => []
  | s :: rest =>
      ⟨s.form, ⟨start, start + Text.width s.owned⟩⟩ :: markers (start + Text.width s.chars) rest

def segment (s : MarkerSource r) : Segment :=
  .closed s.content s.tail

theorem not_mem_content (s : MarkerSource r) : '[' ∉ s.content ∧ ']' ∉ s.content := by
  cases s with
  | full name default? hint? => exact ⟨name.free '[' (by simp), name.free ']' (by simp)⟩
  | short name default? hint? => exact ⟨name.free '[' (by simp), name.free ']' (by simp)⟩
  | reference name after =>
      exact ⟨by simp [content, name.free '[' (by simp)], by simp [content, name.free ']' (by simp)]⟩
  | registered code after => exact code.free

theorem not_mem_tail (s : MarkerSource r) : '[' ∉ s.tail := by
  cases s with
  | full name default? hint? =>
      simp [tail, Phrase.not_mem_optional (d := '[') (by simp) default?,
        Phrase.not_mem_group (d := '[') (by simp) (by decide) (by decide) hint?]
  | short name default? hint? =>
      simp [tail, Phrase.not_mem_optional (d := '[') (by simp) default?,
        Phrase.not_mem_group (d := '[') (by simp) (by decide) (by decide) hint?]
  | reference name after => exact after.free
  | registered code after => exact after.free

theorem segment_proper (s : MarkerSource r) : s.segment.Proper :=
  ⟨s.not_mem_content.1, s.not_mem_content.2, s.not_mem_tail⟩

theorem trim_content (s : MarkerSource r) : Text.trim s.content = s.content := by
  cases s with
  | full name default? hint? => exact name.trimmed
  | short name default? hint? => exact name.trimmed
  | reference name after =>
      rw [content, Text.trim_cons _ (by decide), Text.trimEnd_eq_of_trim_eq name.trimmed]
  | registered code after => exact code.trimmed

/-- Reading the segment of a marker gives back what the marker stands for. -/
theorem form?_segment (s : MarkerSource r) : s.segment.form? r = some s.form := by
  rw [segment, Segment.form?, trim_content]
  cases s with
  | full name default? hint? =>
      rw [content, tail, MarkerForm.ofContent?_plain r _ name.filled name.no_code
        name.no_reference, PlainField.read_full]
      rfl
  | short name default? hint? =>
      rw [content, tail, MarkerForm.ofContent?_plain r _ name.filled name.no_code
        name.no_reference, PlainField.read_short]
      rfl
  | reference name after =>
      exact MarkerForm.ofContent?_reference r _ name.filled name.trimmed
  | registered code after => exact MarkerForm.ofContent?_registered _ code.known

theorem unknownCode?_form (s : MarkerSource r) : s.form.unknownCode? = none := by
  cases s with
  | full name default? hint? =>
      exact if_neg (by rw [Phrase.text, String.toList_ofList]; exact name.no_code)
  | short name default? hint? =>
      exact if_neg (by rw [Phrase.text, String.toList_ofList]; exact name.no_code)
  | reference name after => rfl
  | registered code after => rfl

theorem ownSpan_segment (start : Nat) (s : MarkerSource r) :
    s.segment.ownSpan start s.form.ownsTail = ⟨start, start + Text.width s.owned⟩ := by
  rw [Segment.ownSpan_eq]
  cases s with
  | full name default? hint? => rfl
  | short name default? hint? => rfl
  | reference name after => rfl
  | registered code after => rfl

theorem marker?_segment (start : Nat) (s : MarkerSource r) :
    s.segment.marker? r start = some ⟨s.form, ⟨start, start + Text.width s.owned⟩⟩ := by
  rw [Segment.marker?, form?_segment, ← ownSpan_segment]
  rfl

theorem issue?_segment (start : Nat) (s : MarkerSource r) : s.segment.issue? r start = none := by
  have hform := s.form?_segment
  rw [segment] at hform ⊢
  simp only [Segment.issue?, hform, unknownCode?_form, Option.map_none]

theorem filterMap_marker?_locate (start : Nat) (sources : List (MarkerSource r)) :
    ((Segment.locate start (sources.map segment)).filterMap fun p => p.2.marker? r p.1) =
      markers start sources := by
  induction sources generalizing start with
  | nil => rfl
  | cons s rest ih =>
      have hrest := ih (start + Text.width s.segment.chars)
      simp only [List.map_cons, Segment.locate, List.filterMap_cons, marker?_segment, hrest]
      rfl

theorem exists_source_of_mem_locate {start : Nat} {sources : List (MarkerSource r)}
    {p : Nat × Segment} (h : p ∈ Segment.locate start (sources.map segment)) :
    ∃ s : MarkerSource r, p.2 = s.segment := by
  have hp : p.2 ∈ (Segment.locate start (sources.map segment)).map Prod.snd :=
    List.mem_map_of_mem h
  rw [Segment.map_snd_locate] at hp
  obtain ⟨s, -, hs⟩ := List.mem_map.1 hp
  exact ⟨s, hs.symm⟩

/-- A lead and markers written out are read as that lead and the segments of these markers. -/
theorem read_append_chars (lead : Literal) (sources : List (MarkerSource r)) :
    CellText.read (lead.chars ++ sources.flatMap chars) =
      ⟨lead.chars, sources.map segment⟩ := by
  have hchars : (sources.map segment).flatMap Segment.chars = sources.flatMap chars := by
    rw [List.flatMap_map]
    rfl
  refine CellText.read_eq_iff.2 ⟨⟨lead.free, fun s hs => ?_⟩, by rw [CellText.chars, hchars]⟩
  obtain ⟨source, -, rfl⟩ := List.mem_map.1 hs
  exact source.segment_proper

end MarkerSource

namespace Reading

/-- Written markers are read back in order, each with its span, and nothing is reported. -/
theorem ofText_written {r : Registry} (lead : Literal) (sources : List (MarkerSource r)) :
    ofText r (lead.chars ++ sources.flatMap MarkerSource.chars) =
      ⟨MarkerSource.markers (Text.width lead.chars) sources, []⟩ := by
  let located := Segment.locate (Text.width lead.chars) (sources.map MarkerSource.segment)
  -- Every located segment is that of a source, and none of these has an issue.
  have hunclosed : (located.filterMap fun p => p.2.unclosedSpan? p.1) = [] := by
    refine List.filterMap_eq_nil_iff.2 fun p hp => ?_
    obtain ⟨s, hs⟩ := MarkerSource.exists_source_of_mem_locate hp
    rw [hs]
    rfl
  have hissues : (located.filterMap fun p => p.2.issue? r p.1) = [] := by
    refine List.filterMap_eq_nil_iff.2 fun p hp => ?_
    obtain ⟨s, hs⟩ := MarkerSource.exists_source_of_mem_locate hp
    rw [hs]
    exact s.issue?_segment p.1
  have hmarkers : (located.filterMap fun p => p.2.marker? r p.1) =
      MarkerSource.markers (Text.width lead.chars) sources :=
    MarkerSource.filterMap_marker?_locate _ sources
  rw [ofText, MarkerSource.read_append_chars, CellText.unclosed, CellText.located]
  change Reading.mk (located.filterMap _) ((located.filterMap _).map _ ++ located.filterMap _) = _
  rw [hunclosed, hissues, hmarkers]
  rfl

/-- A plain marker without a default and with a hint, as it is written out. -/
example (r : Registry) :
    (MarkerSource.full ⟨⟨"site".toList, by decide, by decide, by simp⟩, by decide, by decide⟩
      none (some ⟨"where to".toList, by decide, by decide, by simp⟩) : MarkerSource r).chars =
        "[site];(where to)".toList := by
  rfl

end Reading

end MarkedSheet
