import Mathlib.Data.List.Dedup
import Mathlib.Data.List.Perm.Basic
import MarkedSheet.Proofs.Grid.Writes

/-!
# Contents written one after the other

Of several contents written to an address the last one stays.  None is lost exactly when no address
is written to twice.
-/

namespace MarkedSheet.Cells

variable {α : Type}

theorem ofList_concat (entries : List (Address × α)) (e : Address × α) :
    ofList (entries ++ [e]) = (ofList entries).insert e.1 e.2 := by
  rw [ofList, List.foldl_append, ofList, List.foldl_cons, List.foldl_nil]

theorem get?_foldl_insert (entries : List (Address × α)) (cells : Cells α) (a : Address) :
    (entries.foldl (fun cells e => cells.insert e.1 e.2) cells).get? a =
      ((ofList entries).get? a).or (cells.get? a) := by
  induction entries using List.reverseRecOn with
  | nil => rfl
  | append_singleton entries e ih =>
      rw [List.foldl_append, List.foldl_cons, List.foldl_nil, get?_insert, ih, ofList_concat,
        get?_insert]
      split <;> rfl

theorem get?_ofList_cons (e : Address × α) (entries : List (Address × α)) (a : Address) :
    (ofList (e :: entries)).get? a =
      ((ofList entries).get? a).or (if e.1 = a then some e.2 else none) := by
  rw [ofList, List.foldl_cons, get?_foldl_insert, get?_insert, get?_empty]

theorem get?_ofList_eq_none_iff {entries : List (Address × α)} {a : Address} :
    (ofList entries).get? a = none ↔ ∀ e ∈ entries, e.1 ≠ a := by
  induction entries with
  | nil => simp [ofList]
  | cons e entries ih =>
      rw [get?_ofList_cons, Option.or_eq_none_iff, ih, List.forall_mem_cons, and_comm]
      simp

/-- An address holds what was written to it last. -/
theorem get?_ofList_eq_some_iff {entries : List (Address × α)} {a : Address} {v : α} :
    (ofList entries).get? a = some v ↔ ∃ before after,
      entries = before ++ (a, v) :: after ∧ ∀ e ∈ after, e.1 ≠ a := by
  induction entries with
  | nil => simp [ofList]
  | cons e entries ih =>
      rw [get?_ofList_cons, Option.or_eq_some_iff, ih, get?_ofList_eq_none_iff]
      constructor
      · rintro (⟨before, after, rfl, hafter⟩ | ⟨hafter, hhere⟩)
        · exact ⟨e :: before, after, rfl, hafter⟩
        · split at hhere
          · next ha =>
              obtain rfl := Option.some.inj hhere
              exact ⟨[], entries, by rw [← ha, List.nil_append], hafter⟩
          · cases hhere
      · rintro ⟨before, after, heq, hafter⟩
        cases before with
        | nil =>
            obtain ⟨rfl, rfl⟩ := List.cons.inj heq
            exact Or.inr ⟨hafter, if_pos rfl⟩
        | cons first before =>
            obtain ⟨-, rfl⟩ := List.cons.inj heq
            exact Or.inl ⟨before, after, rfl, hafter⟩

theorem mem_addresses_iff {cells : Cells α} {a : Address} :
    a ∈ cells.addresses ↔ ∃ v, cells.get? a = some v := by
  constructor
  · intro h
    obtain ⟨e, he, rfl⟩ := List.mem_map.1 h
    exact ⟨e.2, get?_eq_some_iff.2 he⟩
  · rintro ⟨v, hv⟩
    exact List.mem_map.2 ⟨(a, v), get?_eq_some_iff.1 hv, rfl⟩

theorem mem_addresses_ofList {entries : List (Address × α)} {a : Address} :
    a ∈ (ofList entries).addresses ↔ a ∈ entries.map (·.1) := by
  rw [mem_addresses_iff]
  induction entries with
  | nil => simp [ofList]
  | cons e entries ih =>
      rw [get?_ofList_cons, List.map_cons, List.mem_cons, ← ih]
      cases (ofList entries).get? a with
      | some v => simp
      | none =>
          rw [eq_comm (a := a)]
          by_cases h : e.1 = a <;> simp [h]

theorem nodup_addresses (cells : Cells α) : cells.addresses.Nodup := by
  refine List.pairwise_map.2 (cells.ascending.imp ?_)
  intro e f hlt heq
  rw [heq] at hlt
  exact Address.lt_irrefl _ hlt

/-- As many cells are filled as different addresses are written to. -/
theorem length_entries_ofList (entries : List (Address × α)) :
    (ofList entries).entries.length = (entries.map (·.1)).dedup.length := by
  have hperm : (ofList entries).addresses.Perm (entries.map (·.1)).dedup := by
    rw [List.perm_ext_iff_of_nodup (nodup_addresses _) (List.nodup_dedup _)]
    intro a
    rw [mem_addresses_ofList, List.mem_dedup]
  rw [← hperm.length_eq, addresses, List.length_map]

theorem length_entries_ofList_eq_iff {entries : List (Address × α)} :
    (ofList entries).entries.length = entries.length ↔ (entries.map (·.1)).Nodup := by
  have hlength : (entries.map (·.1)).length = entries.length := List.length_map _
  rw [length_entries_ofList, ← hlength, ← List.dedup_eq_self]
  constructor
  · intro h
    exact (List.dedup_sublist _).eq_of_length h
  · intro h
    rw [h]

end MarkedSheet.Cells
