import MarkedSheet.Text.Blank

/-!
# Trimmed texts

A text that trimming leaves as it is has no blank at either end.  Trimming a second time changes
nothing.
-/

namespace MarkedSheet.Text

theorem trimEnd_cons {c : Char} (cs : List Char) (h : isBlank c = false) :
    trimEnd (c :: cs) = c :: trimEnd cs := by
  rw [trimEnd]
  cases trimEnd cs with
  | nil => simp [h]
  | cons d ds => rfl

theorem length_trimEnd_le (cs : List Char) : (trimEnd cs).length ≤ cs.length := by
  induction cs with
  | nil => exact Nat.le_refl 0
  | cons c cs ih =>
      rw [trimEnd]
      split
      · split <;> simp
      · next d ds h =>
          rw [h] at ih
          simpa using ih

theorem trim_cons {c : Char} (cs : List Char) (h : isBlank c = false) :
    trim (c :: cs) = c :: trimEnd cs := by
  have hstart : trimStart (c :: cs) = c :: cs := by simp [trimStart, h]
  rw [trim, hstart, trimEnd_cons cs h]

theorem trimEnd_eq_of_forall {cs : List Char} (h : ∀ c ∈ cs, isBlank c = false) :
    trimEnd cs = cs := by
  induction cs with
  | nil => rfl
  | cons c cs ih =>
      rw [List.forall_mem_cons] at h
      rw [trimEnd_cons cs h.1, ih h.2]

/-- A text without blanks is trimmed. -/
theorem trim_eq_of_forall {cs : List Char} (h : ∀ c ∈ cs, isBlank c = false) : trim cs = cs := by
  cases cs with
  | nil => rfl
  | cons c cs =>
      rw [List.forall_mem_cons] at h
      rw [trim_cons cs h.1, trimEnd_eq_of_forall h.2]

theorem trimStart_eq_of_trim_eq {cs : List Char} (h : trim cs = cs) : trimStart cs = cs := by
  have hsuffix : trimStart cs <:+ cs := List.dropWhile_suffix isBlank
  have hlength := length_trimEnd_le (trimStart cs)
  rw [← trim, h] at hlength
  exact hsuffix.eq_of_length (Nat.le_antisymm hsuffix.length_le hlength)

theorem trimEnd_eq_of_trim_eq {cs : List Char} (h : trim cs = cs) : trimEnd cs = cs := by
  rw [trim, trimStart_eq_of_trim_eq h] at h
  exact h

theorem trimEnd_trimEnd (cs : List Char) : trimEnd (trimEnd cs) = trimEnd cs := by
  induction cs with
  | nil => rfl
  | cons c cs ih =>
      rw [trimEnd]
      split
      · split
        · rfl
        · next hblank => simp [trimEnd, hblank]
      · next d ds h =>
          rw [h] at ih
          rw [trimEnd, ih]

theorem isBlank_of_trimStart_eq_cons {cs rest : List Char} {c : Char}
    (h : trimStart cs = c :: rest) : isBlank c = false := by
  have hhead := List.head?_dropWhile_not isBlank cs
  rw [show cs.dropWhile isBlank = c :: rest from h] at hhead
  exact hhead

theorem trim_trim (cs : List Char) : trim (trim cs) = trim cs := by
  cases hstart : trimStart cs with
  | nil =>
      have htrim : trim cs = [] := by
        rw [trim, hstart]
        rfl
      rw [htrim]
      rfl
  | cons c rest =>
      have hc := isBlank_of_trimStart_eq_cons hstart
      have htrim : trim cs = c :: trimEnd rest := by rw [trim, hstart, trimEnd_cons rest hc]
      rw [htrim, trim_cons _ hc, trimEnd_trimEnd]

theorem trimEnd_eq_nil_iff {cs : List Char} : trimEnd cs = [] ↔ allBlank cs = true := by
  induction cs with
  | nil => exact ⟨fun _ => rfl, fun _ => rfl⟩
  | cons c cs ih =>
      rw [allBlank, List.all_cons, ← allBlank, Bool.and_eq_true, ← ih, trimEnd]
      cases trimEnd cs with
      | nil => by_cases hc : isBlank c <;> simp [hc]
      | cons d ds => simp

theorem trim_eq_nil_iff {cs : List Char} : trim cs = [] ↔ allBlank cs = true := by
  rw [trim, trimEnd_eq_nil_iff]
  induction cs with
  | nil => exact Iff.rfl
  | cons c cs ih =>
      rw [trimStart, List.dropWhile_cons]
      split
      · next hc => rw [← trimStart, ih, allBlank, allBlank, List.all_cons, hc, Bool.true_and]
      · rfl

/-- Nothing is left of a blank text. -/
theorem trimmed?_eq_none_iff {cs : List Char} : trimmed? cs = none ↔ allBlank cs = true := by
  rw [← trim_eq_nil_iff, trimmed?]
  cases trim cs <;> simp

/-- A text that has something in it and no blanks at its ends. -/
def IsPhrase (cs : List Char) : Prop :=
  cs ≠ [] ∧ trim cs = cs

theorem isPhrase_trim {cs : List Char} (h : trim cs ≠ []) : IsPhrase (trim cs) :=
  ⟨h, trim_trim cs⟩

theorem isPhrase_of_trimmed? {cs : List Char} {s : String} (h : trimmed? cs = some s) :
    IsPhrase s.toList := by
  rw [trimmed?] at h
  split at h
  · cases h
  · next c rest htrim =>
      obtain rfl := Option.some.inj h
      rw [String.toList_ofList, ← htrim]
      exact isPhrase_trim (by simp [htrim])

/-- Only the blanks at the end are lost, so nothing before other characters is. -/
theorem trimEnd_append {cs : List Char} (ds : List Char) (h : trimEnd cs ≠ []) :
    trimEnd (ds ++ cs) = ds ++ trimEnd cs := by
  induction ds with
  | nil => rfl
  | cons d ds ih =>
      rw [List.cons_append, trimEnd, ih]
      split
      · next hnil => exact absurd (List.append_eq_nil_iff.1 hnil).2 h
      · next e es heq => rw [← heq, List.cons_append]

theorem trimEnd_append_of_nil {cs : List Char} (ds : List Char) (h : trimEnd cs = []) :
    trimEnd (ds ++ cs) = trimEnd ds := by
  induction ds with
  | nil => exact h
  | cons d ds ih => rw [List.cons_append, trimEnd, ih, trimEnd]

theorem trimEnd_isPrefix (cs : List Char) : trimEnd cs <+: cs := by
  induction cs with
  | nil => exact List.prefix_refl []
  | cons c cs ih =>
      rw [trimEnd]
      split
      · split
        · exact List.nil_prefix
        · exact ⟨cs, rfl⟩
      · next d ds heq =>
          rw [heq] at ih
          exact (List.prefix_cons_inj c).2 ih

theorem trim_infix (cs : List Char) : trim cs <:+: cs :=
  (trimEnd_isPrefix _).isInfix.trans (List.dropWhile_suffix isBlank).isInfix

theorem trimEnd_eq_of_append {cs ds : List Char} (h : trimEnd (ds ++ cs) = ds ++ cs) :
    trimEnd cs = cs := by
  induction ds with
  | nil => exact h
  | cons d ds ih =>
      refine ih ?_
      rw [List.cons_append, trimEnd] at h
      split at h
      · next hnil =>
          split at h
          · cases h
          · rw [hnil, (List.cons.inj h).2.symm]
      · next e es heq => rw [heq, (List.cons.inj h).2]

section Parts

variable {head tail : List Char}

/-- The part of a phrase before some place starts with the phrase. -/
theorem IsPhrase.before (h : IsPhrase (head ++ tail)) (hne : head ≠ []) :
    IsPhrase (trimEnd head) := by
  obtain ⟨c, rest, rfl⟩ := List.exists_cons_of_ne_nil hne
  have hc := isBlank_of_trimStart_eq_cons (trimStart_eq_of_trim_eq h.2)
  rw [trimEnd_cons rest hc]
  refine ⟨List.cons_ne_nil _ _, ?_⟩
  rw [trim_cons _ hc, trimEnd_trimEnd]

/-- The part of a phrase behind some place ends with the phrase. -/
theorem IsPhrase.behind (h : IsPhrase (head ++ tail)) (hne : tail ≠ []) :
    IsPhrase (trimStart tail) := by
  have hend : trimEnd tail = tail := trimEnd_eq_of_append (trimEnd_eq_of_trim_eq h.2)
  have htrim : trim tail = trimStart tail := by
    obtain ⟨blanks, hblanks⟩ : trimStart tail <:+ tail := List.dropWhile_suffix isBlank
    have hall : trimEnd (blanks ++ trimStart tail) = blanks ++ trimStart tail := by
      rw [hblanks, hend]
    exact trimEnd_eq_of_append hall
  rw [← htrim]
  refine isPhrase_trim fun hnil => hne ?_
  rw [← hend, trimEnd_eq_nil_iff, ← trim_eq_nil_iff, hnil]

/-- Two phrases with one character between them make a phrase. -/
theorem IsPhrase.append_cons (hhead : IsPhrase head) (c : Char) (htail : IsPhrase tail) :
    IsPhrase (head ++ c :: tail) := by
  obtain ⟨d, rest, rfl⟩ := List.exists_cons_of_ne_nil hhead.1
  have hd := isBlank_of_trimStart_eq_cons (trimStart_eq_of_trim_eq hhead.2)
  have hend : trimEnd tail = tail := trimEnd_eq_of_trim_eq htail.2
  have hne : trimEnd tail ≠ [] := hend.symm ▸ htail.1
  refine ⟨List.cons_ne_nil _ _, ?_⟩
  rw [List.cons_append, trim_cons _ hd, List.append_cons, trimEnd_append _ hne, hend]

end Parts

/-- What is printed of a text: its characters that are not blank. -/
def ink (cs : List Char) : List Char :=
  cs.filter fun c => !isBlank c

theorem ink_append (cs ds : List Char) : ink (cs ++ ds) = ink cs ++ ink ds :=
  List.filter_append ..

theorem ink_trimStart (cs : List Char) : ink (trimStart cs) = ink cs := by
  induction cs with
  | nil => rfl
  | cons c cs ih =>
      rw [trimStart, List.dropWhile_cons]
      split
      · next hc => rw [← trimStart, ih, ink, ink, List.filter_cons_of_neg (by simp [hc])]
      · rfl

theorem ink_trimEnd (cs : List Char) : ink (trimEnd cs) = ink cs := by
  induction cs with
  | nil => rfl
  | cons c cs ih =>
      have hcons : ink (c :: cs) = ink [c] ++ ink (trimEnd cs) := by
        rw [ih, ← ink_append, List.singleton_append]
      rw [hcons, trimEnd]
      split
      · next hnil =>
          rw [hnil]
          split
          · next hc => simp [ink, hc]
          · exact (List.append_nil _).symm
      · next d ds heq => rw [heq, ← ink_append, List.singleton_append]

theorem ink_trim (cs : List Char) : ink (trim cs) = ink cs := by
  rw [trim, ink_trimEnd, ink_trimStart]

theorem trimmed?_eq_some {cs : List Char} (hne : cs ≠ []) (h : trim cs = cs) :
    trimmed? cs = some (String.ofList cs) := by
  rw [trimmed?, h]
  cases cs with
  | nil => exact absurd rfl hne
  | cons c cs => rfl

end MarkedSheet.Text
