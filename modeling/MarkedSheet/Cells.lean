import MarkedSheet.Address

/-!
# Cells of a page

The filled cells of a page with their contents, in ascending order of address and at most one for
each address.  Writing to an address replaces what was there.
-/

namespace MarkedSheet

/-- Contents by address, in ascending order. -/
structure Cells (α : Type) where
  entries : List (Address × α)
  ascending : entries.Pairwise fun x y => x.1 < y.1

namespace Cells

variable {α β : Type}

instance [DecidableEq α] : DecidableEq (Cells α) := fun a b =>
  if h : a.entries = b.entries then
    isTrue (by cases a; cases b; simp_all)
  else
    isFalse (fun hab => h (hab ▸ rfl))

def empty : Cells α :=
  ⟨[], List.Pairwise.nil⟩

/-- Write one entry into ascending entries. -/
def place (a : Address) (v : α) : List (Address × α) → List (Address × α)
  | [] => [(a, v)]
  | (b, w) :: rest =>
      if a < b then (a, v) :: (b, w) :: rest
      else if a = b then (a, v) :: rest
      else (b, w) :: place a v rest

theorem mem_place {a : Address} {v : α} {entries : List (Address × α)} {x : Address × α}
    (h : x ∈ place a v entries) : x = (a, v) ∨ x ∈ entries := by
  induction entries with
  | nil => simpa [place] using h
  | cons e rest ih =>
      unfold place at h
      split at h
      · simpa using h
      · split at h
        · rcases List.mem_cons.1 h with h | h
          · exact Or.inl h
          · exact Or.inr (List.mem_cons_of_mem _ h)
        · rcases List.mem_cons.1 h with h | h
          · exact Or.inr (h ▸ List.mem_cons_self)
          · rcases ih h with h | h
            · exact Or.inl h
            · exact Or.inr (List.mem_cons_of_mem _ h)

theorem pairwise_place {a : Address} {v : α} {entries : List (Address × α)}
    (h : entries.Pairwise fun x y => x.1 < y.1) :
    (place a v entries).Pairwise fun x y => x.1 < y.1 := by
  induction entries with
  | nil => simp [place]
  | cons e rest ih =>
      obtain ⟨b, w⟩ := e
      rw [List.pairwise_cons] at h
      unfold place
      split
      · next hlt =>
          refine List.pairwise_cons.2 ⟨fun x hx => ?_, List.pairwise_cons.2 h⟩
          rcases List.mem_cons.1 hx with rfl | hx
          · exact hlt
          · exact Address.lt_trans hlt (h.1 x hx)
      · next hnot =>
          split
          · next heq =>
              subst heq
              exact List.pairwise_cons.2 h
          · next hne =>
              refine List.pairwise_cons.2 ⟨fun x hx => ?_, ih h.2⟩
              rcases mem_place hx with rfl | hx
              · exact Address.lt_of_not_lt_of_ne hnot hne
              · exact h.1 x hx

def insert (cells : Cells α) (a : Address) (v : α) : Cells α :=
  ⟨place a v cells.entries, pairwise_place cells.ascending⟩

/-- The cells after writing the entries one after the other. -/
def ofList (entries : List (Address × α)) : Cells α :=
  entries.foldl (fun cells e => cells.insert e.1 e.2) empty

/-- The content at an address, if its cell is filled. -/
def get? (cells : Cells α) (a : Address) : Option α :=
  (cells.entries.find? fun e => e.1 = a).map (·.2)

def addresses (cells : Cells α) : List Address :=
  cells.entries.map (·.1)

def map (f : α → β) (cells : Cells α) : Cells β where
  entries := cells.entries.map fun e => (e.1, f e.2)
  ascending := by
    rw [List.pairwise_map]
    exact cells.ascending

@[simp]
theorem get?_empty (a : Address) : (empty : Cells α).get? a = none := rfl

theorem find?_place (a b : Address) (v : α) (entries : List (Address × α))
    (h : entries.Pairwise fun x y => x.1 < y.1) :
    ((place a v entries).find? fun e => e.1 = b).map (·.2) =
      if a = b then some v else (entries.find? fun e => e.1 = b).map (·.2) := by
  induction entries with
  | nil => by_cases hb : a = b <;> simp [place, hb]
  | cons e rest ih =>
      obtain ⟨c, w⟩ := e
      rw [List.pairwise_cons] at h
      unfold place
      split
      · next hlt => by_cases hb : a = b <;> simp [hb]
      · split
        · next heq =>
            subst heq
            by_cases hb : a = b <;> simp [hb]
        · next hne =>
            by_cases hc : c = b
            · subst hc
              simp [hne]
            · simp only [List.find?_cons, hc, decide_false]
              exact ih h.2

theorem get?_insert (cells : Cells α) (a b : Address) (v : α) :
    (cells.insert a v).get? b = if a = b then some v else cells.get? b :=
  find?_place a b v cells.entries cells.ascending

end Cells

end MarkedSheet
