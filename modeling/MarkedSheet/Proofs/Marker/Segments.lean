import MarkedSheet.Marker.Segment
import MarkedSheet.Proofs.Text.Slices

/-!
# Reading a cell into segments

A lead without an opening bracket, followed by segments that each hold one opening bracket and end
before the next, is the only such division of its text.  The segments therefore stand one after the
other, and their positions are those of the opening brackets.
-/

namespace MarkedSheet

@[simp] theorem Text.utf8Size_opening : '['.utf8Size = 1 :=
  rfl

@[simp] theorem Text.utf8Size_closing : ']'.utf8Size = 1 :=
  rfl

namespace Segment

/-- A segment holds no opening bracket but its own, and its first closing bracket, if there is one,
ends its content. -/
def Proper : Segment → Prop
  | closed content tail => '[' ∉ content ∧ ']' ∉ content ∧ '[' ∉ tail
  | unclosed content => '[' ∉ content ∧ ']' ∉ content

theorem ofBody_proper {body : List Char} (h : '[' ∉ body) : (ofBody body).Proper := by
  unfold ofBody
  split
  · next content tail hsplit =>
      obtain ⟨rfl, hclose⟩ := Text.eq_append_of_splitAtFirst? hsplit
      simp only [List.mem_append, List.mem_cons, not_or] at h
      exact ⟨h.1, hclose, h.2.2⟩
  · next hsplit => exact ⟨h, Text.splitAtFirst?_eq_none_iff.1 hsplit⟩

/-- The characters of a proper segment after its opening bracket determine it. -/
theorem Proper.exists_body {s : Segment} (h : s.Proper) :
    ∃ body, s.chars = '[' :: body ∧ '[' ∉ body ∧ ofBody body = s := by
  cases s with
  | closed content tail =>
      obtain ⟨hcontent, hclose, htail⟩ := h
      refine ⟨content ++ ']' :: tail, rfl, by simp [hcontent, htail], ?_⟩
      rw [ofBody, Text.splitAtFirst?_append tail hclose]
  | unclosed content =>
      obtain ⟨hcontent, hclose⟩ := h
      refine ⟨content, rfl, hcontent, ?_⟩
      rw [ofBody, Text.splitAtFirst?_eq_none_iff.2 hclose]

theorem map_snd_locate (start : Nat) (segments : List Segment) :
    (locate start segments).map Prod.snd = segments := by
  induction segments generalizing start with
  | nil => rfl
  | cons s rest ih => simp [locate, ih]

/-- A located segment stands behind the segments before it. -/
theorem exists_of_mem_locate {start : Nat} {segments : List Segment} {p : Nat × Segment}
    (h : p ∈ locate start segments) :
    ∃ before after, segments = before ++ p.2 :: after ∧
      p.1 = start + Text.width (before.flatMap chars) := by
  induction segments generalizing start with
  | nil => simp [locate] at h
  | cons s rest ih =>
      rcases List.mem_cons.1 h with rfl | h
      · exact ⟨[], rest, rfl, rfl⟩
      · obtain ⟨before, after, hrest, hpos⟩ := ih h
        refine ⟨s :: before, after, by rw [hrest]; rfl, ?_⟩
        rw [hpos, List.flatMap_cons, Text.width_append]
        omega

/-- Each segment ends before the later ones begin. -/
theorem pairwise_locate (start : Nat) (segments : List Segment) :
    (locate start segments).Pairwise fun p q => p.1 + Text.width p.2.chars ≤ q.1 := by
  induction segments generalizing start with
  | nil => exact List.Pairwise.nil
  | cons s rest ih =>
      refine List.pairwise_cons.2 ⟨fun q hq => ?_, ih _⟩
      obtain ⟨before, after, -, hpos⟩ := exists_of_mem_locate hq
      rw [hpos]
      exact Nat.le_add_right _ _

/-- The opening brackets among proper segments stand where the segments begin. -/
theorem positions_locate (start : Nat) {segments : List Segment}
    (h : ∀ s ∈ segments, s.Proper) :
    Text.positions '[' start (segments.flatMap chars) = (locate start segments).map Prod.fst := by
  induction segments generalizing start with
  | nil => rfl
  | cons s rest ih =>
      obtain ⟨body, hchars, hbody, -⟩ := (h s List.mem_cons_self).exists_body
      have hs : Text.positions '[' start s.chars = [start] := by
        rw [hchars, Text.positions, if_pos rfl, Text.positions_eq_nil _ hbody]
      rw [List.flatMap_cons, Text.positions_append, hs,
        ih _ fun s hs => h s (List.mem_cons_of_mem _ hs)]
      rfl

end Segment

namespace CellText

/-- The lead holds no opening bracket and the segments are proper. -/
def Proper (t : CellText) : Prop :=
  '[' ∉ t.lead ∧ ∀ s ∈ t.segments, s.Proper

theorem read_proper (cs : List Char) : (read cs).Proper := by
  induction cs with
  | nil => exact ⟨by simp [read], by simp [read]⟩
  | cons c cs ih =>
      obtain ⟨hlead, hsegments⟩ := ih
      rw [read]
      split
      · refine ⟨by simp, fun s hs => ?_⟩
        rcases List.mem_cons.1 hs with rfl | hs
        · exact Segment.ofBody_proper hlead
        · exact hsegments s hs
      · next hc => exact ⟨by simp [hlead, Ne.symm hc], hsegments⟩

/-- Text without an opening bracket joins the lead of the text behind it. -/
theorem read_append {before : List Char} (after : List Char) (h : '[' ∉ before) :
    read (before ++ after) = ⟨before ++ (read after).lead, (read after).segments⟩ := by
  induction before with
  | nil => rfl
  | cons c cs ih =>
      rw [List.mem_cons, not_or] at h
      rw [List.cons_append, read, if_neg (Ne.symm h.1), ih h.2]
      rfl

theorem read_flatMap_chars {segments : List Segment} (h : ∀ s ∈ segments, s.Proper) :
    read (segments.flatMap Segment.chars) = ⟨[], segments⟩ := by
  induction segments with
  | nil => rfl
  | cons s rest ih =>
      obtain ⟨body, hchars, hbody, hofBody⟩ := (h s List.mem_cons_self).exists_body
      have hrest := ih fun s hs => h s (List.mem_cons_of_mem _ hs)
      rw [List.flatMap_cons, hchars, List.cons_append, read, if_pos rfl,
        read_append _ hbody, hrest, List.append_nil, hofBody]

/-- Reading gives the only proper division of a text into a lead and segments. -/
theorem read_eq_iff {cs : List Char} {t : CellText} :
    read cs = t ↔ t.Proper ∧ t.chars = cs := by
  constructor
  · rintro rfl
    exact ⟨read_proper cs, chars_read cs⟩
  · rintro ⟨⟨hlead, hsegments⟩, rfl⟩
    rw [chars, read_append _ hlead, read_flatMap_chars hsegments, List.append_nil]

/-- A located segment of a text stands at its position in the text, in front of the next ones. -/
theorem exists_segments_of_mem_located {cs : List Char} {p : Nat × Segment}
    (h : p ∈ (read cs).located) :
    ∃ (before : List Char) (segments : List Segment),
      cs = before ++ (p.2.chars ++ segments.flatMap Segment.chars) ∧
      p.1 = Text.width before ∧ p.2.Proper := by
  obtain ⟨before, after, hsegments, hpos⟩ := Segment.exists_of_mem_locate h
  refine ⟨(read cs).lead ++ before.flatMap Segment.chars, after,
    ?_, by rw [hpos, Text.width_append], (read_proper cs).2 _ (by rw [hsegments]; simp)⟩
  calc
    cs = (read cs).chars := (chars_read cs).symm
    _ = _ := by rw [chars, hsegments]; simp

theorem exists_of_mem_located {cs : List Char} {p : Nat × Segment}
    (h : p ∈ (read cs).located) :
    ∃ before after, cs = before ++ (p.2.chars ++ after) ∧ p.1 = Text.width before ∧
      p.2.Proper := by
  obtain ⟨before, segments, hcs, hpos, hproper⟩ := exists_segments_of_mem_located h
  exact ⟨before, _, hcs, hpos, hproper⟩

/-- The segments begin at the opening brackets of the text. -/
theorem positions_eq_located (cs : List Char) :
    Text.positions '[' 0 cs = (read cs).located.map Prod.fst := by
  obtain ⟨hlead, hsegments⟩ := read_proper cs
  calc
    Text.positions '[' 0 cs = Text.positions '[' 0 (read cs).chars := by rw [chars_read]
    _ = Text.positions '[' (Text.width (read cs).lead)
          ((read cs).segments.flatMap Segment.chars) := by
      rw [chars, Text.positions_append, Text.positions_eq_nil 0 hlead, List.nil_append,
        Nat.zero_add]
    _ = (read cs).located.map Prod.fst := Segment.positions_locate _ hsegments

end CellText

end MarkedSheet
