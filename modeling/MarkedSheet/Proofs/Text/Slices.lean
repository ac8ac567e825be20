import MarkedSheet.Text.Bytes

/-!
# Slices of a text

A text cut into pieces is sliced back into these pieces at the sums of their widths.  The positions
of a character are the widths of the pieces in front of its occurrences.  Cuts at the boundaries
between pieces succeed.
-/

namespace MarkedSheet.Text

theorem width_pos {cs : List Char} (h : cs ≠ []) : 0 < width cs := by
  cases cs with
  | nil => exact absurd rfl h
  | cons c cs =>
      have hc : 0 < c.utf8Size := Char.utf8Size_pos c
      rw [width_cons]
      omega

theorem before?_width (before after : List Char) :
    before? (width before) (before ++ after) = some before := by
  rw [before?, cutAt?_width_append]
  rfl

theorem after?_width (before after : List Char) :
    after? (width before) (before ++ after) = some after := by
  rw [after?, cutAt?_width_append]
  rfl

theorem slice?_width (before part after : List Char) :
    slice? (width before) (width before + width part) (before ++ (part ++ after)) =
      some part := by
  rw [slice?, if_pos (Nat.le_add_right _ _), after?_width, Nat.add_sub_cancel_left]
  exact before?_width part after

/-- The beginning of a text is determined by its width. -/
theorem eq_of_width_eq {before before' rest rest' : List Char}
    (h : before ++ rest = before' ++ rest') (hwidth : width before = width before') :
    before = before' := by
  have hcut := cutAt?_width_append before rest
  rw [h, hwidth, cutAt?_width_append] at hcut
  exact (Prod.mk.inj (Option.some.inj hcut)).1.symm

/-- A position between two pieces of a text, either of which may be empty. -/
def IsBoundary (n : Nat) (cs : List Char) : Prop :=
  ∃ before after, cs = before ++ after ∧ n = width before

theorem isBoundary_zero (cs : List Char) : IsBoundary 0 cs :=
  ⟨[], cs, rfl, rfl⟩

theorem IsBoundary.isSome_after? {n : Nat} {cs : List Char} (h : IsBoundary n cs) :
    (after? n cs).isSome := by
  obtain ⟨before, after, rfl, rfl⟩ := h
  rw [after?_width]
  rfl

/-- A boundary that does not lie before the end of a piece has more pieces between. -/
theorem IsBoundary.exists_part {n : Nat} {before rest : List Char}
    (h : IsBoundary n (before ++ rest)) (hle : width before ≤ n) :
    ∃ part after, rest = part ++ after ∧ n = width before + width part := by
  obtain ⟨front, after, hcs, rfl⟩ := h
  rcases List.append_eq_append_iff.1 hcs with ⟨part, rfl, rfl⟩ | ⟨part, rfl, rfl⟩
  · exact ⟨part, after, rfl, width_append before part⟩
  · -- The boundary would stand before the end of the piece, unless nothing is between them.
    cases part with
    | nil => exact ⟨[], rest, rfl, by simp⟩
    | cons c part =>
        have hpos := width_pos (List.cons_ne_nil c part)
        rw [width_append] at hle
        omega

theorem IsBoundary.isSome_slice? {m n : Nat} {cs : List Char} (hm : IsBoundary m cs)
    (hn : IsBoundary n cs) (h : m ≤ n) : (slice? m n cs).isSome := by
  obtain ⟨before, rest, rfl, rfl⟩ := hm
  obtain ⟨part, after, rfl, rfl⟩ := hn.exists_part h
  rw [slice?_width]
  rfl

/-- A cut that succeeds gives the two pieces of the text around a boundary. -/
theorem eq_append_of_cutAt? {n : Nat} {cs before after : List Char}
    (h : cutAt? n cs = some (before, after)) : cs = before ++ after ∧ n = width before := by
  fun_induction cutAt? n cs generalizing before with
  | case1 cs =>
      simp only [Option.some.injEq, Prod.mk.injEq] at h
      obtain ⟨rfl, rfl⟩ := h
      exact ⟨rfl, rfl⟩
  | case2 n => cases h
  | case3 n c rest hfits ih =>
      obtain ⟨⟨front, back⟩, hcut, heq⟩ := Option.map_eq_some_iff.1 h
      simp only [Prod.mk.injEq] at heq
      obtain ⟨rfl, rfl⟩ := heq
      obtain ⟨rfl, hwidth⟩ := ih hcut
      refine ⟨rfl, ?_⟩
      rw [width_cons]
      omega
  | case4 n c rest hfits => cases h

theorem isSome_after?_iff {n : Nat} {cs : List Char} : (after? n cs).isSome ↔ IsBoundary n cs := by
  constructor
  · intro h
    rw [after?, Option.isSome_map] at h
    obtain ⟨⟨before, after⟩, hcut⟩ := Option.isSome_iff_exists.1 h
    obtain ⟨hcs, hn⟩ := eq_append_of_cutAt? hcut
    exact ⟨before, after, hcs, hn⟩
  · exact IsBoundary.isSome_after?

instance (n : Nat) (cs : List Char) : Decidable (IsBoundary n cs) :=
  decidable_of_iff _ isSome_after?_iff

/-- What is cut out stands between two pieces of the text, at the positions given by the widths. -/
theorem slice?_eq_some_iff {m n : Nat} {cs part : List Char} :
    slice? m n cs = some part ↔
      ∃ before after, cs = before ++ (part ++ after) ∧ m = width before ∧
        n = width before + width part := by
  constructor
  · intro h
    rw [slice?] at h
    split at h
    · next hle =>
        obtain ⟨rest, hafter, hbefore⟩ := Option.bind_eq_some_iff.1 h
        obtain ⟨⟨front, rest'⟩, hcut, rfl⟩ := Option.map_eq_some_iff.1 hafter
        obtain ⟨⟨part', back⟩, hcut', rfl⟩ := Option.map_eq_some_iff.1 hbefore
        obtain ⟨hcs, hm⟩ := eq_append_of_cutAt? hcut
        obtain ⟨hrest, hn⟩ := eq_append_of_cutAt? hcut'
        dsimp only at hrest hn ⊢
        exact ⟨front, back, by rw [hcs, hrest], hm, by omega⟩
    · cases h
  · rintro ⟨before, after, rfl, rfl, rfl⟩
    exact slice?_width before part after

/-- A part can be cut out exactly when both its ends are boundaries and come in this order. -/
theorem isSome_slice?_iff {m n : Nat} {cs : List Char} :
    (slice? m n cs).isSome ↔ m ≤ n ∧ IsBoundary m cs ∧ IsBoundary n cs := by
  constructor
  · intro h
    obtain ⟨part, hpart⟩ := Option.isSome_iff_exists.1 h
    obtain ⟨before, after, hcs, rfl, rfl⟩ := slice?_eq_some_iff.1 hpart
    refine ⟨Nat.le_add_right _ _, ⟨before, part ++ after, hcs, rfl⟩, ⟨before ++ part, after, ?_, ?_⟩⟩
    · rw [hcs, List.append_assoc]
    · rw [width_append]
  · rintro ⟨hle, hm, hn⟩
    exact hm.isSome_slice? hn hle

/-- The positions of a character in a text that begins at `start`. -/
def positions (d : Char) (start : Nat) : List Char → List Nat
  | [] => []
  | c :: rest =>
      if c = d then start :: positions d (start + c.utf8Size) rest
      else positions d (start + c.utf8Size) rest

theorem positions_append (d : Char) (start : Nat) (cs ds : List Char) :
    positions d start (cs ++ ds) =
      positions d start cs ++ positions d (start + width cs) ds := by
  induction cs generalizing start with
  | nil => rfl
  | cons c cs ih =>
      by_cases h : c = d
      · simp [positions, h, ih, Nat.add_assoc]
      · simp [positions, h, ih, Nat.add_assoc]

theorem positions_eq_nil {d : Char} {cs : List Char} (start : Nat) (h : d ∉ cs) :
    positions d start cs = [] := by
  induction cs generalizing start with
  | nil => rfl
  | cons c cs ih =>
      rw [List.mem_cons, not_or] at h
      rw [positions, if_neg (Ne.symm h.1)]
      exact ih (start + c.utf8Size) h.2

theorem length_positions (d : Char) (start : Nat) (cs : List Char) :
    (positions d start cs).length = cs.count d := by
  induction cs generalizing start with
  | nil => rfl
  | cons c cs ih =>
      by_cases h : c = d
      · simp [positions, h, ih]
      · simp [positions, h, ih]

theorem mem_positions_iff {d : Char} {start n : Nat} {cs : List Char} :
    n ∈ positions d start cs ↔
      ∃ before after, cs = before ++ d :: after ∧ n = start + width before := by
  constructor
  · intro h
    induction cs generalizing start with
    | nil => simp [positions] at h
    | cons c cs ih =>
        rw [positions] at h
        split at h
        · next hc =>
            rcases List.mem_cons.1 h with rfl | h
            · exact ⟨[], cs, by rw [hc]; rfl, rfl⟩
            · obtain ⟨before, after, rfl, rfl⟩ := ih h
              exact ⟨c :: before, after, rfl, by simp [Nat.add_assoc]⟩
        · obtain ⟨before, after, rfl, rfl⟩ := ih h
          exact ⟨c :: before, after, rfl, by simp [Nat.add_assoc]⟩
  · rintro ⟨before, after, rfl, rfl⟩
    rw [positions_append]
    simp [positions]

/-- Positions come in ascending order, so that none is listed twice. -/
theorem positions_pairwise_lt (d : Char) (start : Nat) (cs : List Char) :
    (positions d start cs).Pairwise (· < ·) := by
  induction cs generalizing start with
  | nil => exact List.Pairwise.nil
  | cons c cs ih =>
      rw [positions]
      split
      · refine List.pairwise_cons.2 ⟨fun n hn => ?_, ih _⟩
        obtain ⟨before, after, -, rfl⟩ := mem_positions_iff.1 hn
        have hc : 0 < c.utf8Size := Char.utf8Size_pos c
        omega
      · exact ih _

end MarkedSheet.Text
