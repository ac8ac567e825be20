import MarkedSheet.Proofs.Marker.Segments
import MarkedSheet.Proofs.Marker.Tokens

/-!
# The next bracket

What an opening bracket comes to is decided by the next bracket of the text: a closing one makes a
marker, another opening one or none leaves the bracket open.  Other closing brackets count for
nothing.
-/

namespace MarkedSheet

namespace Segment

/-- What the grammar finds at a segment that begins at `start`. -/
def finding (start : Nat) : Segment → Finding
  | closed content _ =>
      let close := start + 1 + Text.width content
      .marker ⟨⟨start, start + 1⟩, ⟨close, close + 1⟩⟩
  | unclosed content => .broken ⟨start, start + 1 + Text.width content⟩

theorem brackets?_finding (start : Nat) (s : Segment) :
    (s.finding start).brackets? = s.brackets? start := by
  cases s <;> rfl

theorem unclosedSpan?_finding (start : Nat) (s : Segment) :
    (s.finding start).unclosedSpan? = s.unclosedSpan? start := by
  cases s with
  | closed content tail => rfl
  | unclosed content =>
      simp only [finding, Finding.unclosedSpan?, unclosedSpan?, span, chars, Text.width_cons,
        Text.utf8Size_opening, Nat.add_assoc]

theorem start_of_brackets? {start : Nat} {s : Segment} {b : Brackets}
    (h : s.brackets? start = some b) : b.opening.start = start := by
  cases s with
  | closed content tail =>
      obtain rfl := Option.some.inj h
      rfl
  | unclosed content => cases h

theorem start_of_unclosedSpan? {start : Nat} {s : Segment} {span : Span}
    (h : s.unclosedSpan? start = some span) : span.start = start := by
  cases s with
  | closed content tail => cases h
  | unclosed content =>
      obtain rfl := Option.some.inj h
      rfl

end Segment

/-- An opening bracket stands behind `before` and is followed by `content` up to the next bracket,
with which `after` begins, or up to the end of the text. -/
structure OpensAt (cs before content after : List Char) : Prop where
  text : cs = before ++ '[' :: (content ++ after)
  bracketless : Text.Bracketless content
  next : ∀ c ∈ after.head?, c = '[' ∨ c = ']'

/-- What an opening bracket behind `before` comes to when `after` begins with the next bracket. -/
def OpensAt.finding (before content after : List Char) : Finding :=
  let start := Text.width before
  let stop := Text.width (before ++ '[' :: content)
  if after.head? = some ']' then .marker ⟨⟨start, start + 1⟩, ⟨stop, stop + 1⟩⟩
  else .broken ⟨start, stop⟩

namespace OpensAt

variable {cs before content after content' after' : List Char}

theorem takeWhile_content (h : OpensAt cs before content after) :
    (content ++ after).takeWhile (fun c => c != '[' && c != ']') = content := by
  rw [List.takeWhile_append_of_pos fun c hc => ?_]
  · have hafter : after.takeWhile (fun c => c != '[' && c != ']') = [] := by
      cases after with
      | nil => rfl
      | cons c after => rcases h.next c rfl with rfl | rfl <;> rfl
    rw [hafter, List.append_nil]
  · have hopen : c ≠ '[' := fun hc' => h.bracketless.1 (hc' ▸ hc)
    have hclose : c ≠ ']' := fun hc' => h.bracketless.2 (hc' ▸ hc)
    simp [hopen, hclose]

/-- The text behind an opening bracket determines the next bracket. -/
theorem unique (h : OpensAt cs before content after) (h' : OpensAt cs before content' after') :
    content = content' ∧ after = after' := by
  have hrest : content ++ after = content' ++ after' := by
    have htext := h.text.symm.trans h'.text
    simpa using htext
  have hcontent := h.takeWhile_content
  rw [hrest, h'.takeWhile_content] at hcontent
  exact ⟨hcontent.symm, List.append_cancel_left (hcontent ▸ hrest)⟩

end OpensAt

namespace CellText

/-- Every segment of a cell is what its opening bracket comes to. -/
theorem exists_opensAt_of_mem_located {cs : List Char} {p : Nat × Segment}
    (h : p ∈ (read cs).located) :
    ∃ before content after, OpensAt cs before content after ∧ p.1 = Text.width before ∧
      p.2.finding p.1 = OpensAt.finding before content after := by
  obtain ⟨before, segments, hcs, hpos, hproper⟩ := exists_segments_of_mem_located h
  obtain ⟨start, s⟩ := p
  obtain rfl : start = Text.width before := hpos
  cases s with
  | closed content tail =>
      obtain ⟨hcontent, hclose, -⟩ := hproper
      refine ⟨before, content, ']' :: (tail ++ segments.flatMap Segment.chars),
        ⟨by simpa [Segment.chars] using hcs, ⟨hcontent, hclose⟩, by simp⟩, rfl, ?_⟩
      simp [Segment.finding, OpensAt.finding, Nat.add_assoc]
  | unclosed content =>
      have hnext : ∀ c ∈ (segments.flatMap Segment.chars).head?, c = '[' := by
        cases segments with
        | nil => simp
        | cons s rest => cases s <;> simp [Segment.chars]
      have hnot : (segments.flatMap Segment.chars).head? ≠ some ']' := by
        intro hclose
        exact absurd (hnext ']' hclose) (by decide)
      refine ⟨before, content, segments.flatMap Segment.chars,
        ⟨hcs, hproper, fun c hc => Or.inl (hnext c hc)⟩, rfl, ?_⟩
      rw [OpensAt.finding, if_neg hnot]
      simp [Segment.finding, Nat.add_assoc]

/-- The segments of a cell are what all of its opening brackets come to. -/
theorem mem_map_finding_iff {cs : List Char} {f : Finding} :
    f ∈ (read cs).located.map (fun p => p.2.finding p.1) ↔
      ∃ before content after, OpensAt cs before content after ∧
        f = OpensAt.finding before content after := by
  constructor
  · intro h
    obtain ⟨p, hp, rfl⟩ := List.mem_map.1 h
    obtain ⟨before, content, after, hopens, -, hfinding⟩ := exists_opensAt_of_mem_located hp
    exact ⟨before, content, after, hopens, hfinding⟩
  · rintro ⟨before, content, after, hopens, rfl⟩
    have hposition : Text.width before ∈ Text.positions '[' 0 cs :=
      Text.mem_positions_iff.2 ⟨before, content ++ after, hopens.text, (Nat.zero_add _).symm⟩
    rw [positions_eq_located] at hposition
    obtain ⟨p, hp, hstart⟩ := List.mem_map.1 hposition
    obtain ⟨before', content', after', hopens', hpos, hfinding⟩ := exists_opensAt_of_mem_located hp
    have hbefore : before' = before :=
      Text.eq_of_width_eq (hopens'.text.symm.trans hopens.text) (hpos.symm.trans hstart)
    subst hbefore
    obtain ⟨rfl, rfl⟩ := hopens.unique hopens'
    exact List.mem_map.2 ⟨p, hp, hfinding⟩

end CellText

end MarkedSheet
