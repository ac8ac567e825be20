import Mathlib.Data.List.Infix
import Mathlib.Data.List.TakeWhile
import MarkedSheet.CommandLine.Run
import MarkedSheet.Proofs.Text.Runs

/-!
# Extensions of names

The name of a file has an extension behind its last point, unless that point is its first character.
With the extension that it has, a name stays the same, and with every other one it becomes another.
-/

namespace MarkedSheet.CommandLine

/-- A name has an extension when it ends in it behind a point that is not its first character, and
no point stands in the extension.  It has the empty one when there is no such point. -/
def HasExtension (name extension : String) : Prop :=
  if extension = "" then '.' ∉ name.toList.drop 1
  else '.' ∉ extension.toList ∧ '.' :: extension.toList <:+ name.toList.drop 1

instance (name extension : String) : Decidable (HasExtension name extension) := by
  unfold HasExtension
  infer_instance

section Stem

variable {cs base rest : List Char}

theorem ne_of_mem_reverse {d : Char} (h : d ∉ cs) : ∀ c ∈ cs.reverse, decide (c ≠ d) = true := by
  intro c hc
  rw [decide_eq_true_eq]
  rintro rfl
  exact h (List.mem_reverse.1 hc)

/-- From its end on, a text goes to its last point and then to what stands before it. -/
theorem span_reverse (base : List Char) (hrest : '.' ∉ rest) :
    (base ++ '.' :: rest).reverse.takeWhile (fun c => c ≠ '.') = rest.reverse ∧
      (base ++ '.' :: rest).reverse.dropWhile (fun c => c ≠ '.') = '.' :: base.reverse := by
  have hreverse : (base ++ '.' :: rest).reverse = rest.reverse ++ '.' :: base.reverse := by simp
  rw [hreverse]
  exact ⟨Text.takeWhile_run (ne_of_mem_reverse hrest) (by simp),
    Text.dropWhile_run (ne_of_mem_reverse hrest) (by simp)⟩

/-- The stem ends at the last point. -/
theorem stem_append (hbase : base ≠ []) (hrest : '.' ∉ rest) : stem (base ++ '.' :: rest) = base := by
  have hdrop := (span_reverse base hrest).2
  have hempty : base.reverse.isEmpty = false := by simpa using hbase
  simp only [stem, hdrop, List.drop_succ_cons, List.drop_zero, hempty, Bool.false_eq_true, if_false,
    List.reverse_reverse]

theorem stem_of_not_mem (h : '.' ∉ cs.drop 1) : stem cs = cs := by
  cases cs with
  | nil => rfl
  | cons c cs =>
      have hcs : '.' ∉ cs := by simpa using h
      have hdrop : ((c :: cs).reverse.dropWhile (fun c => c ≠ '.')).drop 1 = [] := by
        rw [List.reverse_cons, List.dropWhile_append_of_pos (ne_of_mem_reverse hcs)]
        by_cases hc : c = '.'
        · simp [hc]
        · simp [hc]
      simp only [stem, hdrop, List.isEmpty_nil, if_true]

theorem stem_cases (cs : List Char) :
    ('.' ∉ cs.drop 1 ∧ stem cs = cs) ∨
      ∃ c base rest, '.' ∉ rest ∧ cs = c :: base ++ '.' :: rest ∧ stem cs = c :: base := by
  by_cases h : '.' ∈ cs.drop 1
  · right
    cases cs with
    | nil => simp at h
    | cons c cs =>
        have hreverse : '.' ∈ cs.reverse := by simpa using h
        obtain ⟨rest, base, hsplit, hrest⟩ := List.eq_append_cons_of_mem hreverse
        have hcs : c :: cs = c :: base.reverse ++ '.' :: rest.reverse := by
          rw [← List.reverse_reverse cs, hsplit]
          simp
        have hpoint : '.' ∉ rest.reverse := by simpa using hrest
        refine ⟨c, base.reverse, rest.reverse, hpoint, hcs, ?_⟩
        rw [hcs]
        exact stem_append (List.cons_ne_nil _ _) hpoint
  · exact .inl ⟨h, stem_of_not_mem h⟩

theorem stem_subset (cs : List Char) : ∀ c ∈ stem cs, c ∈ cs := by
  rcases stem_cases cs with ⟨-, hstem⟩ | ⟨c, base, rest, -, hcs, hstem⟩
  · simp [hstem]
  · rw [hstem, hcs]
    exact fun d hd => List.mem_append_left _ hd

end Stem

/-- What stands behind the last point is the same, however a text is cut there. -/
theorem eq_of_last_point {before base extension rest : List Char} (hextension : '.' ∉ extension)
    (hrest : '.' ∉ rest) (h : before ++ '.' :: extension = base ++ '.' :: rest) :
    extension = rest := by
  have hreversed := (span_reverse before hextension).1
  rw [h, (span_reverse base hrest).1] at hreversed
  exact (List.reverse_injective hreversed).symm

section Names

variable {name extension : String}

/-- What stands behind the stem of a name with an extension. -/
def ending (extension : String) : List Char :=
  if extension = "" then [] else '.' :: extension.toList

theorem withExtension_name (hslash : '/' ∉ name.toList) (hne : name ≠ "") (hpoint : name ≠ ".") :
    withExtension name extension =
      if stem name.toList = ['.'] then ".."
      else String.ofList (stem name.toList ++ ending extension) := by
  have hkept := ne_of_mem_reverse hslash
  have hlist : ¬ (name.toList = [] ∨ name.toList = ['.']) := by
    rw [not_or]
    exact ⟨by simpa using hne, fun h => hpoint (String.toList_injective h)⟩
  have hending : (if extension.isEmpty then "" else "." ++ extension) =
      String.ofList (ending extension) := by
    by_cases hempty : extension = ""
    · simp [ending, hempty]
    · rw [ending, if_neg hempty, if_neg (by simpa using hempty), ← String.toList_inj]
      simp
  simp only [withExtension, List.takeWhile_eq_self_iff.2 hkept, List.dropWhile_eq_nil_iff.2 hkept,
    List.reverse_reverse, List.reverse_nil, List.nil_append, if_neg hlist, hending,
    String.ofList_append]

theorem not_mem_withExtension (hslash : '/' ∉ name.toList) (hextension : '/' ∉ extension.toList) :
    '/' ∉ (withExtension name extension).toList := by
  by_cases hempty : name = ""
  · subst hempty
    exact hslash
  by_cases hpoint : name = "."
  · subst hpoint
    exact hslash
  rw [withExtension_name hslash hempty hpoint]
  split
  · decide
  · rw [String.toList_ofList, List.mem_append, not_or]
    refine ⟨fun h => hslash (stem_subset _ _ h), ?_⟩
    rw [ending]
    split
    · simp
    · simpa using hextension

/-- A name stays as it is with the extension that it has, and with no other. -/
theorem withExtension_eq_self_iff (hslash : '/' ∉ name.toList) (hne : name ≠ "") (hpoint : name ≠ ".")
    (hpoints : withExtension name extension ≠ "..") :
    withExtension name extension = name ↔ HasExtension name extension := by
  rw [withExtension_name hslash hne hpoint] at hpoints ⊢
  split at hpoints
  · exact absurd rfl hpoints
  rw [if_neg ‹_›, ← String.toList_inj, String.toList_ofList, HasExtension, ending]
  rcases stem_cases name.toList with ⟨hnone, hstem⟩ | ⟨c, base, rest, hrest, hname, hstem⟩
  · rw [hstem]
    by_cases hempty : extension = ""
    · simpa [hempty] using hnone
    · rw [if_neg hempty, if_neg hempty]
      refine ⟨fun h => ?_, fun h => absurd (h.2.subset List.mem_cons_self) hnone⟩
      have hlength := congrArg List.length h
      rw [List.length_append, List.length_cons] at hlength
      omega
  · rw [hstem, hname]
    by_cases hempty : extension = ""
    · simp [hempty]
    · rw [if_neg hempty, if_neg hempty, List.append_cancel_left_eq, List.cons.injEq]
      constructor
      · rintro ⟨-, rfl⟩
        exact ⟨hrest, List.suffix_append base _⟩
      · rintro ⟨hextension, before, hbefore⟩
        exact ⟨rfl, eq_of_last_point hextension hrest hbefore⟩

end Names

end MarkedSheet.CommandLine
