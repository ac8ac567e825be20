import MarkedSheet.Proofs.Generation.Replacing

/-!
# Substitution as interleaving

When the spans of a cell follow each other without overlap, the text that comes out is made of the
pieces outside the spans and of the values, in turn.  No piece and no value is left out, and none is
read again, whatever brackets a value holds.  A single span among blanks takes its value as it is,
number or text.  Markers whose values are their own texts therefore give back the text of the cell.
-/

namespace MarkedSheet

namespace Substitution

/-- Spans that begin and end at boundaries of a text and follow each other without overlap. -/
structure Ordered (text : List Char) (replacements : List Replacement) : Prop where
  fits : ∀ r ∈ replacements, Fits text r
  forward : ∀ r ∈ replacements, r.span.start ≤ r.span.stop
  ascending : replacements.Pairwise fun r s => r.span.stop ≤ s.span.start

instance (text : List Char) (r : Replacement) : Decidable (Fits text r) :=
  inferInstanceAs (Decidable (_ ∧ _))

/-- A text that begins at position `n` and what becomes of it: the piece under each span gives way to
the value, and the pieces outside the spans stay as they are. -/
inductive Interleaves : Nat → List Char → List Replacement → List Char → Prop where
  | rest (n : Nat) (cs : List Char) : Interleaves n cs [] cs
  | replaced {n : Nat} (gap part : List Char) (v : Value) {cs out : List Char}
      {replacements : List Replacement}
      (h : Interleaves (n + Text.width gap + Text.width part) cs replacements out) :
      Interleaves n (gap ++ (part ++ cs))
        (⟨⟨n + Text.width gap, n + Text.width gap + Text.width part⟩, v⟩ :: replacements)
        (gap ++ (v.display.toList ++ out))

/-- Only blanks stand outside the span of a replacement. -/
def Alone (text : List Char) (r : Replacement) : Prop :=
  ∃ before part after, text = before ++ (part ++ after) ∧
    r.span = ⟨Text.width before, Text.width before + Text.width part⟩ ∧
      Text.allBlank before = true ∧ Text.allBlank after = true

/-- The value of a cell: that of a span which is alone in it, or else the text with all values put
in. -/
inductive Composed (text : List Char) : List Replacement → Value → Prop where
  | alone {r : Replacement} (h : Alone text r) : Composed text [r] r.value
  | interleaved {replacements : List Replacement} {out : List Char}
      (hnot : ∀ r, replacements = [r] → ¬ Alone text r) (h : Interleaves 0 text replacements out) :
      Composed text replacements (.text (String.ofList out))

variable {text before rest : List Char} {replacements : List Replacement} {r : Replacement}

theorem Ordered.tail (h : Ordered text (r :: replacements)) : Ordered text replacements where
  fits := fun s hs => h.fits s (List.mem_cons_of_mem r hs)
  forward := fun s hs => h.forward s (List.mem_cons_of_mem r hs)
  ascending := (List.pairwise_cons.1 h.ascending).2

/-- A span behind the first pieces of a text cuts it into a gap, the part under the span and a
rest. -/
theorem Ordered.exists_cut (h : Ordered (before ++ rest) (r :: replacements))
    (hle : Text.width before ≤ r.span.start) :
    ∃ gap part after, rest = gap ++ (part ++ after) ∧
      r.span = ⟨Text.width before + Text.width gap,
        Text.width before + Text.width gap + Text.width part⟩ := by
  obtain ⟨hstart, hstop⟩ := h.fits r List.mem_cons_self
  have hforward := h.forward r List.mem_cons_self
  obtain ⟨gap, behind, rfl, hgap⟩ := hstart.exists_part hle
  rw [← List.append_assoc] at hstop
  obtain ⟨part, after, rfl, hpart⟩ := hstop.exists_part <| by
    rw [Text.width_append]
    omega
  refine ⟨gap, part, after, rfl, ?_⟩
  rw [Text.width_append] at hpart
  rw [← hpart, ← hgap]

/-- From a position on, spans that follow each other interleave with the text. -/
theorem exists_interleaves (h : Ordered (before ++ rest) replacements)
    (hstart : ∀ r ∈ replacements, Text.width before ≤ r.span.start) :
    ∃ out, Interleaves (Text.width before) rest replacements out := by
  -- The text in front of the position grows by a gap and the part under a span at each step.
  induction replacements generalizing before rest with
  | nil => exact ⟨rest, .rest _ rest⟩
  | cons r replacements ih =>
      obtain ⟨gap, part, after, rfl, hspan⟩ := h.exists_cut (hstart r List.mem_cons_self)
      obtain ⟨span, v⟩ := r
      obtain rfl : span = _ := hspan
      have htail : Ordered ((before ++ (gap ++ part)) ++ after) replacements := by
        have htail' := h.tail
        rwa [← List.append_assoc gap, ← List.append_assoc before] at htail'
      have hwidth : Text.width (before ++ (gap ++ part)) =
          Text.width before + Text.width gap + Text.width part := by
        simp only [Text.width_append, Nat.add_assoc]
      have hbehind : ∀ s ∈ replacements, Text.width (before ++ (gap ++ part)) ≤ s.span.start := by
        intro s hs
        rw [hwidth]
        exact (List.pairwise_cons.1 h.ascending).1 s hs
      obtain ⟨out, hout⟩ := ih htail hbehind
      rw [hwidth] at hout
      exact ⟨_, .replaced gap part v hout⟩

/-- The pass skips no span and gives what the interleaving says. -/
theorem Interleaves.substituteFrom?_eq {n : Nat} {cs out : List Char}
    (h : Interleaves n cs replacements out) (hn : n = Text.width before) :
    substituteFrom? (before ++ cs) n replacements = some out := by
  induction h generalizing before with
  | rest n cs =>
      subst hn
      rw [substituteFrom?, Text.after?_width]
  | @replaced n gap part v cs out replacements h ih =>
      subst hn
      have hkept : ¬ (Text.width before + Text.width gap < Text.width before ∨
          Text.width (before ++ (gap ++ (part ++ cs))) <
            Text.width before + Text.width gap + Text.width part) := by
        simp only [Text.width_append]
        omega
      have hrest := @ih (before ++ (gap ++ part)) <| by
        simp only [Text.width_append, Nat.add_assoc]
      rw [List.append_assoc, List.append_assoc] at hrest
      rw [substituteFrom?, if_neg hkept]
      show (Text.slice? (Text.width before) (Text.width before + Text.width gap) _).bind _ = _
      rw [Text.slice?_width, hrest]
      rfl

theorem Interleaves.substitute?_eq {out : List Char} (h : Interleaves 0 text replacements out) :
    substitute? text replacements = some (.text (String.ofList out)) := by
  have hout : substituteFrom? ([] ++ text) 0 replacements = some out := h.substituteFrom?_eq rfl
  rw [substitute?]
  exact congrArg (Option.map _) hout

theorem Ordered.isAlone_iff (h : Ordered text [r]) : isAlone text r.span = true ↔ Alone text r := by
  have halone : ∀ before part after : List Char, text = before ++ (part ++ after) →
      r.span = ⟨Text.width before, Text.width before + Text.width part⟩ →
        isAlone text r.span = (Text.allBlank before && Text.allBlank after) := by
    rintro before part after rfl hspan
    have hafter := Text.after?_width (before ++ part) after
    rw [Text.width_append, List.append_assoc] at hafter
    rw [hspan, isAlone, Text.before?_width, hafter]
    rfl
  constructor
  · intro hblank
    have hwhole : Ordered ([] ++ text) [r] := h
    obtain ⟨before, part, after, htext, hspan⟩ := hwhole.exists_cut (Nat.zero_le _)
    rw [Text.width_nil, Nat.zero_add] at hspan
    rw [halone before part after htext hspan, Bool.and_eq_true] at hblank
    exact ⟨before, part, after, htext, hspan, hblank⟩
  · rintro ⟨before, part, after, htext, hspan, hblank⟩
    rw [halone before part after htext hspan, Bool.and_eq_true]
    exact hblank

theorem Ordered.exists_composed (h : Ordered text replacements) :
    ∃ v, Composed text replacements v := by
  by_cases halone : ∃ r, replacements = [r] ∧ Alone text r
  · obtain ⟨r, rfl, halone⟩ := halone
    exact ⟨r.value, .alone halone⟩
  · have hwhole : Ordered ([] ++ text) replacements := h
    obtain ⟨out, hout⟩ := exists_interleaves hwhole fun _ _ => Nat.zero_le _
    exact ⟨_, .interleaved (fun r hr hr' => halone ⟨r, hr, hr'⟩) hout⟩

theorem Composed.compose?_eq {v : Value} (hv : Composed text replacements v)
    (h : Ordered text replacements) : compose? text replacements = some v := by
  cases hv with
  | @alone r halone => exact if_pos (h.isAlone_iff.2 halone)
  | interleaved hnot hout =>
      rw [compose?.eq_def]
      split
      · next r =>
          rw [if_neg fun hblank => hnot r rfl (h.isAlone_iff.1 hblank)]
          exact hout.substitute?_eq
      · exact hout.substitute?_eq

/-- A cell whose spans follow each other gets the one value that they and its text say. -/
theorem Ordered.exists_compose? (h : Ordered text replacements) :
    ∃ v, compose? text replacements = some v ∧ ∀ w, Composed text replacements w ↔ w = v := by
  obtain ⟨v, hv⟩ := h.exists_composed
  refine ⟨v, hv.compose?_eq h, fun w => ⟨fun hw => ?_, ?_⟩⟩
  · exact Option.some.inj ((hw.compose?_eq h).symm.trans (hv.compose?_eq h))
  · rintro rfl
    exact hv

/-- Where every value is what stands under its span, the text comes out as it was. -/
theorem Interleaves.eq_of_own {n : Nat} {cs out : List Char}
    (h : Interleaves n cs replacements out) (hn : n = Text.width before)
    (hown : ∀ r ∈ replacements,
      Text.slice? r.span.start r.span.stop (before ++ cs) = some r.value.display.toList) :
    out = cs := by
  induction h generalizing before with
  | rest n cs => rfl
  | @replaced n gap part v cs out replacements h ih =>
      subst hn
      have hpart := hown _ List.mem_cons_self
      have hcut := Text.slice?_width (before ++ gap) part cs
      rw [List.append_assoc, Text.width_append] at hcut
      obtain rfl : part = v.display.toList := Option.some.inj (hcut.symm.trans hpart)
      have hrest := @ih (before ++ (gap ++ v.display.toList)) (by simp [Nat.add_assoc]) fun r hr => by
        have hr' := hown r (List.mem_cons_of_mem _ hr)
        simpa using hr'
      rw [hrest]

end Substitution

namespace Reading

/-- Each marker with its own text for a value. -/
def sources (reading : Reading) (text : List Char) : List Replacement :=
  reading.markers.map fun m =>
    ⟨m.span, .text (String.ofList ((Text.slice? m.span.start m.span.stop text).getD []))⟩

/-- A text comes out as it was, except that a marker which is alone in it sheds the blanks around
it. -/
def RestoredAs (reading : Reading) (text out : List Char) : Prop :=
  out = text ∨ ∃ m before after, reading.markers = [m] ∧ text = before ++ (out ++ after) ∧
    Text.allBlank before = true ∧ Text.allBlank after = true

variable {r : Registry} {text : List Char}

theorem ordered_sources (r : Registry) (text : List Char) :
    Substitution.Ordered text ((ofText r text).sources text) where
  fits := by
    intro replaced hreplaced
    obtain ⟨m, hm, rfl⟩ := List.mem_map.1 hreplaced
    exact isBoundary_of_mem_markers hm
  forward := by
    intro replaced hreplaced
    obtain ⟨m, hm, rfl⟩ := List.mem_map.1 hreplaced
    exact Nat.le_of_lt (exists_slice?_of_mem_markers hm).1
  ascending := List.pairwise_map.2 ((pairwise_markers r text).imp And.right)

theorem exists_part_of_mem_sources {replaced : Replacement}
    (h : replaced ∈ (ofText r text).sources text) :
    ∃ part, replaced.value = .text (String.ofList part) ∧
      Text.slice? replaced.span.start replaced.span.stop text = some part := by
  obtain ⟨m, hm, rfl⟩ := List.mem_map.1 h
  obtain ⟨-, body, hcut⟩ := exists_slice?_of_mem_markers hm
  exact ⟨_, rfl, by simp [hcut]⟩

theorem exists_restoredAs (r : Registry) (text : List Char) :
    ∃ out, Substitution.compose? text ((ofText r text).sources text) =
        some (.text (String.ofList out)) ∧ (ofText r text).RestoredAs text out := by
  obtain ⟨v, hcomposed⟩ := (ordered_sources r text).exists_composed
  have hv := hcomposed.compose?_eq (ordered_sources r text)
  have hpart := @exists_part_of_mem_sources r text
  generalize hsources : (ofText r text).sources text = replacements at hv hcomposed hpart
  cases hcomposed with
  | @alone replaced halone =>
      obtain ⟨part, hvalue, hcut⟩ := hpart List.mem_cons_self
      obtain ⟨before, part', after, htext, hspan, hbefore, hafter⟩ := halone
      obtain ⟨m, hm, -⟩ := List.map_eq_singleton_iff.1 hsources
      rw [hspan, htext, Text.slice?_width, Option.some.injEq] at hcut
      subst hcut
      exact ⟨part', hvalue ▸ hv, .inr ⟨m, before, after, hm, htext, hbefore, hafter⟩⟩
  | interleaved hnot hinterleaves =>
      have hown : ∀ replaced ∈ replacements,
          Text.slice? replaced.span.start replaced.span.stop ([] ++ text) =
            some replaced.value.display.toList := by
        intro replaced hreplaced
        obtain ⟨part, hvalue, hcut⟩ := hpart hreplaced
        rw [hvalue, Value.display, String.toList_ofList]
        exact hcut
      exact ⟨_, hv, .inl (hinterleaves.eq_of_own rfl hown)⟩

end Reading

/-- Spans in order are carried out as their interleaving says, which leaves one value only, and
markers whose values are their own texts give the text of the cell back. -/
theorem Substitution.composes_and_restores (text : List Char) :
    (∀ replacements, Ordered text replacements →
      ∃ v, compose? text replacements = some v ∧ ∀ w, Composed text replacements w ↔ w = v) ∧
    ∀ r : Registry, ∃ out,
      compose? text ((Reading.ofText r text).sources text) = some (.text (String.ofList out)) ∧
        (Reading.ofText r text).RestoredAs text out :=
  ⟨fun _ h => h.exists_compose?, fun r => Reading.exists_restoredAs r text⟩

/-- Two spans that touch, behind a character of two bytes; the first value looks like the second
span. -/
theorem Substitution.touching_composed :
    let text := ['é', '[', 'a', ']', '[', 'b', ']', ' ']
    let replacements : List Replacement := [⟨⟨2, 5⟩, .text "[b]"⟩, ⟨⟨5, 8⟩, .integer 7⟩]
    Ordered text replacements ∧ ∃ v, compose? text replacements = some v ∧
      ∀ w, Composed text replacements w ↔ w = v := by
  have h : Ordered ['é', '[', 'a', ']', '[', 'b', ']', ' ']
      [⟨⟨2, 5⟩, .text "[b]"⟩, ⟨⟨5, 8⟩, .integer 7⟩] :=
    ⟨by decide, by decide, by decide⟩
  exact ⟨h, (composes_and_restores _).1 _ h⟩

end MarkedSheet
