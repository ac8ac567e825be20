import Mathlib.Data.List.Induction
import Mathlib.Data.List.Nodup
import Mathlib.Data.List.Sort

/-!
# First occurrences

The names that occur in a list, each of them once and in the order of their first occurrences.  A
name that comes in at the end counts only when it is new.  What is looked up by a name is the first
thing with it, which is the only one when names are distinct.
-/

namespace MarkedSheet

section EraseDups

variable {α : Type} [BEq α] [LawfulBEq α]

theorem eraseDups_concat (l : List α) (a : α) [Decidable (a ∈ l)] :
    (l ++ [a]).eraseDups = if a ∈ l then l.eraseDups else l.eraseDups ++ [a] := by
  rw [List.eraseDups_append, List.removeAll]
  split
  · next h => simp [h]
  · next h => simp [h, List.eraseDups_cons]

theorem pairwise_idxOf_eraseDups (l : List α) :
    l.eraseDups.Pairwise fun a b => l.idxOf a < l.idxOf b := by
  classical
  -- What comes in at the end does not move the others.
  induction l using List.reverseRecOn with
  | nil => simp
  | append_singleton l c ih =>
      have hkept : l.eraseDups.Pairwise fun a b => (l ++ [c]).idxOf a < (l ++ [c]).idxOf b := by
        refine ih.imp_of_mem fun {a b} ha hb hab => ?_
        rw [List.idxOf_append_of_mem (List.mem_eraseDups.1 ha),
          List.idxOf_append_of_mem (List.mem_eraseDups.1 hb)]
        exact hab
      rw [eraseDups_concat]
      split
      · exact hkept
      · next hnew =>
          refine List.pairwise_append.2 ⟨hkept, List.pairwise_singleton _ c, fun a ha b hb => ?_⟩
          obtain rfl := List.mem_singleton.1 hb
          have hmem := List.mem_eraseDups.1 ha
          rw [List.idxOf_append_of_mem hmem, List.idxOf_append_of_notMem hnew]
          have hlt := List.idxOf_lt_length_iff.2 hmem
          omega

theorem pairwise_idxOf_lt {names : List α} (h : names.Nodup) :
    names.Pairwise fun a b => names.idxOf a < names.idxOf b := by
  refine List.pairwise_iff_getElem.2 fun i j hi hj hij => ?_
  rw [h.idxOf_getElem i hi, h.idxOf_getElem j hj]
  exact hij

theorem nodup_eraseDups (l : List α) : l.eraseDups.Nodup := by
  refine (pairwise_idxOf_eraseDups l).imp fun {a b} hlt => ?_
  rintro rfl
  exact Nat.lt_irrefl _ hlt

theorem eraseDups_sublist (l : List α) : l.eraseDups.Sublist l := by
  classical
  induction l using List.reverseRecOn with
  | nil => exact List.Sublist.refl []
  | append_singleton l a ih =>
      rw [eraseDups_concat]
      split
      · exact ih.trans (List.sublist_append_left l [a])
      · exact ih.append (List.Sublist.refl [a])

/-- Names that come in the order of a list, however often, have their first occurrences there. -/
theorem eraseDups_sublist_of_ordered {l names : List α} (hnames : names.Nodup) (hmem : l ⊆ names)
    (h : l.Pairwise fun a b => names.idxOf a ≤ names.idxOf b) : l.eraseDups.Sublist names := by
  have hsublist := eraseDups_sublist l
  have hantisymm : Std.Antisymm fun a b => names.idxOf a < names.idxOf b :=
    ⟨fun _ _ hab hba => absurd hab (Nat.lt_asymm hba)⟩
  have hsubperm : l.eraseDups.Subperm names :=
    List.subperm_of_subset (nodup_eraseDups l) fun a ha => hmem (hsublist.subset ha)
  refine List.sublist_of_subperm_of_pairwise hsubperm ?_ (pairwise_idxOf_lt hnames)
  refine ((h.sublist hsublist).and (nodup_eraseDups l)).imp_of_mem fun {a b} ha _ hab => ?_
  refine Nat.lt_of_le_of_ne hab.1 fun hidx => hab.2 ?_
  exact (List.idxOf_inj (hmem (hsublist.subset ha))).1 hidx

end EraseDups

section Find

variable {α : Type} {l : List α} {name : α → String}

theorem find?_of_nodup (h : (l.map name).Nodup) {a : α} (ha : a ∈ l) :
    (l.find? fun b => name b = name a) = some a := by
  cases hfound : l.find? fun b => name b = name a with
  | none =>
      rw [List.find?_eq_none] at hfound
      exact absurd (decide_eq_true rfl) (hfound a ha)
  | some b =>
      have hname := List.find?_some hfound
      rw [decide_eq_true_iff] at hname
      rw [List.inj_on_of_nodup_map h (List.mem_of_find?_eq_some hfound) ha hname]

theorem filterMap_find?_of_nodup (h : (l.map name).Nodup) :
    (l.map name).filterMap (fun x => l.find? fun b => name b = x) = l := by
  rw [List.filterMap_map]
  exact (List.filterMap_congr fun a ha => find?_of_nodup h ha).trans List.filterMap_some

/-- What is found first comes before all else that could have been found. -/
theorem eq_or_rel_of_find? {R : α → α → Prop} (h : l.Pairwise R) {fits : α → Bool} {a b : α}
    (ha : l.find? fits = some a) (hb : b ∈ l) (hfits : fits b) : a = b ∨ R a b := by
  obtain ⟨-, before, after, rfl, hbefore⟩ := List.find?_eq_some_iff_append.1 ha
  rw [List.pairwise_append, List.pairwise_cons] at h
  rcases List.mem_append.1 hb with hb | hb
  · have hnot := hbefore b hb
    simp [hfits] at hnot
  · rcases List.mem_cons.1 hb with rfl | hb
    · exact Or.inl rfl
    · exact Or.inr (h.2.1.1 b hb)

end Find

/-- Among things that exclude each other only the one at hand contributes. -/
theorem flatMap_eq_of_pairwise {α β : Type} {R : α → α → Prop} {l : List α} (h : l.Pairwise R)
    {a : α} (ha : a ∈ l) {f : α → List β} (hnone : ∀ b, R a b ∨ R b a → f b = []) :
    l.flatMap f = f a := by
  obtain ⟨before, after, rfl⟩ := List.append_of_mem ha
  rw [List.pairwise_append, List.pairwise_cons] at h
  obtain ⟨-, ⟨hafter, -⟩, hbefore⟩ := h
  have hnil : before.flatMap f = [] := List.flatMap_eq_nil_iff.2 fun b hb =>
    hnone b (Or.inr (hbefore b hb a List.mem_cons_self))
  have hnil' : after.flatMap f = [] := List.flatMap_eq_nil_iff.2 fun b hb =>
    hnone b (Or.inl (hafter b hb))
  rw [List.flatMap_append, List.flatMap_cons, hnil, hnil', List.nil_append, List.append_nil]

end MarkedSheet
