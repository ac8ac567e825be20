import MarkedSheet.Generation
import MarkedSheet.Proofs.Compilation.Groups

/-!
# Replacing the markers of a cell

A substitution fails only where it would cut through a character.  The spans of markers begin and
end at boundaries of their text, so that every cell of a compiled template gets a value.
-/

namespace MarkedSheet

namespace Substitution

/-- The span of a replacement begins and ends at boundaries of a text. -/
def Fits (text : List Char) (r : Replacement) : Prop :=
  Text.IsBoundary r.span.start text ∧ Text.IsBoundary r.span.stop text

theorem isSome_substituteFrom? {text : List Char} {cursor : Nat} {replacements : List Replacement}
    (hcursor : Text.IsBoundary cursor text) (h : ∀ r ∈ replacements, Fits text r) :
    (substituteFrom? text cursor replacements).isSome := by
  -- The cursor stays at a boundary: where it stood, or where the last span ended.
  induction replacements generalizing cursor with
  | nil => exact hcursor.isSome_after?
  | cons r rest ih =>
      obtain ⟨hstart, hstop⟩ := h r List.mem_cons_self
      have hrest : ∀ r ∈ rest, Fits text r := fun r hr => h r (List.mem_cons_of_mem _ hr)
      rw [substituteFrom?]
      split
      · exact ih hcursor hrest
      · next hkept =>
          rw [not_or] at hkept
          have hle : cursor ≤ r.span.start := Nat.le_of_not_lt hkept.1
          obtain ⟨between, hbetween⟩ :=
            Option.isSome_iff_exists.1 (hcursor.isSome_slice? hstart hle)
          obtain ⟨after, hafter⟩ := Option.isSome_iff_exists.1 (ih hstop hrest)
          rw [hbetween, hafter]
          rfl

theorem isSome_compose? {text : List Char} {replacements : List Replacement}
    (h : ∀ r ∈ replacements, Fits text r) : (compose? text replacements).isSome := by
  have hsubstitute : (substitute? text replacements).isSome := by
    rw [substitute?, Option.isSome_map]
    exact isSome_substituteFrom? (Text.isBoundary_zero text) h
  rw [compose?.eq_def]
  split
  · split
    · rfl
    · exact hsubstitute
  · exact hsubstitute

end Substitution

/-- A marker begins and ends at boundaries of its text. -/
theorem Reading.isBoundary_of_mem_markers {r : Registry} {text : List Char} {m : Marker}
    (h : m ∈ (ofText r text).markers) :
    Text.IsBoundary m.span.start text ∧ Text.IsBoundary m.span.stop text := by
  obtain ⟨p, hp, -, hspan⟩ := exists_segment_of_mem_markers h
  obtain ⟨before, after, htext, hpos, -⟩ := CellText.exists_of_mem_located hp
  obtain ⟨rest, hchars⟩ := p.2.exists_chars_eq_owned (p.2.givesWhole r)
  rw [hspan, Segment.givenSpan, Segment.ownSpan_eq, hpos]
  refine ⟨⟨before, p.2.chars ++ after, htext, rfl⟩,
    ⟨before ++ p.2.owned (p.2.givesWhole r), rest ++ after, ?_, ?_⟩⟩
  · rw [htext, hchars]
    simp
  · rw [Text.width_append]

namespace TextCell

/-- The values of the markers of a cell with the spans that they replace, in the order of its
text. -/
def replacements (ctx : Generation.Context) (c : TextCell) : List Replacement :=
  (c.markers ctx.registry).map fun m =>
    let d := m.describe c.page c.cell c.text
    ⟨m.span, d.formatted ctx.config (d.resolve ctx.registry ctx.report ctx.history)⟩

theorem map_replacement_fields (ctx : Generation.Context) (c : TextCell) :
    (c.fields ctx.registry).map (Generation.replacement ctx) = c.replacements ctx := by
  rw [fields, List.map_map, replacements]
  refine List.map_congr_left fun m _ => ?_
  simp [Generation.replacement]

theorem all_isResolvable_fields (r : Registry) (c : TextCell) :
    (c.fields r).all Descriptor.isResolvable = !(c.markers r).any Marker.isTableMark := by
  rw [fields, List.all_map, List.not_any_eq_all_not]
  refine congrArg (List.all (c.markers r)) (funext fun m => ?_)
  exact m.isResolvable_describe c.page c.cell c.text

end TextCell

namespace Generation

variable {ctx : Context} {c : TextCell}

/-- A table mark clears its cell, whatever else stands in it. -/
theorem cellValue?_group_of_any (h : (c.markers ctx.registry).any Marker.isTableMark) :
    cellValue? ctx (c.group ctx.registry) = some .empty := by
  have hfields : (c.fields ctx.registry).all Descriptor.isResolvable = false := by
    rw [TextCell.all_isResolvable_fields, h]
    rfl
  rw [cellValue?, TextCell.group, hfields]
  rfl

theorem cellValue?_group_of_not_any (h : ¬ (c.markers ctx.registry).any Marker.isTableMark) :
    cellValue? ctx (c.group ctx.registry) =
      Substitution.compose? c.text.toList (c.replacements ctx) := by
  have hfields : (c.fields ctx.registry).all Descriptor.isResolvable = true := by
    rw [TextCell.all_isResolvable_fields, Bool.eq_false_iff.2 h]
    rfl
  rw [cellValue?, TextCell.group, if_pos hfields, TextCell.map_replacement_fields]

/-- A cell of a template always gets a value, whatever registry it was compiled by. -/
theorem isSome_cellValue?_group (ctx : Context) (r : Registry) (c : TextCell) :
    (cellValue? ctx (c.group r)).isSome := by
  rw [cellValue?]
  split
  · refine Substitution.isSome_compose? fun replaced hreplaced => ?_
    obtain ⟨d, hd, rfl⟩ := List.mem_map.1 hreplaced
    obtain ⟨m, hm, rfl⟩ := List.mem_map.1 hd
    unfold Substitution.Fits replacement
    rw [Marker.describe_span]
    exact Reading.isBoundary_of_mem_markers hm
  · rfl

end Generation

end MarkedSheet
