import MarkedSheet.Text.Blank

/-!
# Runs of characters

A run of characters of one kind is taken to its end when the next character is of another kind.
Letters are those of ASCII.
-/

namespace MarkedSheet.Text

/-- A nonempty text of characters of one kind. -/
def IsRun (kind : Char → Bool) (cs : List Char) : Prop :=
  cs ≠ [] ∧ ∀ c ∈ cs, kind c = true

section

variable {kind : Char → Bool} {cs rest : List Char}

theorem takeWhile_run (hcs : ∀ c ∈ cs, kind c = true)
    (hrest : ∀ c ∈ rest.head?, kind c = false) : (cs ++ rest).takeWhile kind = cs := by
  rw [List.takeWhile_append_of_pos hcs]
  cases rest with
  | nil => exact List.append_nil cs
  | cons c rest => rw [List.takeWhile_cons_of_neg (by simp [hrest c rfl]), List.append_nil]

theorem dropWhile_run (hcs : ∀ c ∈ cs, kind c = true)
    (hrest : ∀ c ∈ rest.head?, kind c = false) : (cs ++ rest).dropWhile kind = rest := by
  have h := List.takeWhile_append_dropWhile (p := kind) (l := cs ++ rest)
  rw [takeWhile_run hcs hrest] at h
  exact List.append_cancel_left h

theorem isRun_takeWhile (h : (cs.takeWhile kind).isEmpty = false) :
    IsRun kind (cs.takeWhile kind) :=
  ⟨List.isEmpty_eq_false_iff.1 h, List.all_eq_true.1 List.all_takeWhile⟩

end

theorem isAlpha_iff {c : Char} :
    c.isAlpha = true ↔ (65 ≤ c.toNat ∧ c.toNat ≤ 90) ∨ (97 ≤ c.toNat ∧ c.toNat ≤ 122) := by
  change (decide (c.val ≥ 'A'.val ∧ c.val ≤ 'Z'.val) ||
    (decide (c.val ≥ 'a'.val) && decide (c.val ≤ 'z'.val))) = true ↔ _
  rw [Bool.or_eq_true, Bool.and_eq_true, decide_eq_true_iff, decide_eq_true_iff,
    decide_eq_true_iff]
  exact Iff.rfl

end MarkedSheet.Text
