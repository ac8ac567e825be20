import Mathlib.Data.List.Nodup
import MarkedSheet.Store

/-!
# Names in a store

What comes into a store takes the place of what had the same name, and what is under other names
stays.  Names that are distinct remain so.
-/

namespace MarkedSheet.Store

section PutBy

variable {α : Type} {name : α → String}

theorem find?_putBy (a : α) (l : List α) (x : String) :
    ((putBy name a l).find? fun b => name b = x) =
      if name a = x then some a else l.find? fun b => name b = x := by
  induction l with
  | nil => by_cases h : name a = x <;> simp [putBy, h]
  | cons b rest ih =>
      rw [putBy]
      by_cases hb : name b = name a
      · rw [if_pos hb]
        by_cases h : name a = x
        · simp [h]
        · simp [h, hb]
      · rw [if_neg hb, List.find?_cons, List.find?_cons, ih]
        by_cases h : name a = x
        · have hbx : name b ≠ x := fun hx => hb (hx.trans h.symm)
          simp [h, hbx]
        · simp [h]

theorem mem_putBy {a b : α} {l : List α} (h : b ∈ putBy name a l) : b = a ∨ b ∈ l := by
  induction l with
  | nil => exact Or.inl (List.mem_singleton.1 h)
  | cons c rest ih =>
      rw [putBy] at h
      split at h
      · rcases List.mem_cons.1 h with h | h
        · exact Or.inl h
        · exact Or.inr (List.mem_cons_of_mem _ h)
      · rcases List.mem_cons.1 h with h | h
        · exact Or.inr (h ▸ List.mem_cons_self)
        · rcases ih h with h | h
          · exact Or.inl h
          · exact Or.inr (List.mem_cons_of_mem _ h)

/-- A name comes in at the end when it is new. -/
theorem map_putBy (a : α) (l : List α) :
    (putBy name a l).map name =
      if name a ∈ l.map name then l.map name else l.map name ++ [name a] := by
  induction l with
  | nil => rfl
  | cons b rest ih =>
      rw [putBy]
      by_cases hb : name b = name a
      · simp [hb]
      · rw [if_neg hb, List.map_cons, ih]
        by_cases hrest : name a ∈ rest.map name
        · simp [hrest]
        · have hnot : name a ∉ (b :: rest).map name := by
            rw [List.map_cons, List.mem_cons]
            rintro (h | h)
            · exact hb h.symm
            · exact hrest h
          rw [if_neg hrest, if_neg hnot]
          rfl

theorem nodup_putBy {l : List α} (h : (l.map name).Nodup) (a : α) :
    ((putBy name a l).map name).Nodup := by
  rw [map_putBy]
  split
  · exact h
  · next hnew =>
      refine List.Nodup.append h (List.nodup_singleton (name a)) ?_
      rwa [List.disjoint_singleton]

/-- Only one of distinct names is the one that is looked up. -/
theorem filter_eq_toList_find? {l : List α} (h : (l.map name).Nodup) (x : String) :
    (l.filter fun b => name b = x) = (l.find? fun b => name b = x).toList := by
  induction l with
  | nil => rfl
  | cons b rest ih =>
      rw [List.map_cons, List.nodup_cons] at h
      by_cases hb : name b = x
      · have hrest : (rest.filter fun c => name c = x) = [] := by
          rw [List.filter_eq_nil_iff]
          intro c hc hcx
          rw [decide_eq_true_iff] at hcx
          exact h.1 (List.mem_map.2 ⟨c, hc, hcx.trans hb.symm⟩)
        rw [List.filter_cons_of_pos (by simpa using hb), hrest,
          List.find?_cons_of_pos (by simpa using hb)]
        rfl
      · rw [List.filter_cons_of_neg (by simpa using hb), ih h.2,
          List.find?_cons_of_neg (by simpa using hb)]

end PutBy

/-- The store with a field map. -/
def keep (s : Store) (m : FieldMap) : Store :=
  { s with fieldMaps := putBy FieldMap.template m s.fieldMaps }

theorem persist_of_accepting {s : Store} (h : s.refusal? = none) (m : FieldMap) :
    s.persist m = .ok (s.keep m) := by
  simp only [persist, h, keep]

theorem fieldMap?_keep (s : Store) (m : FieldMap) (id : String) :
    (s.keep m).fieldMap? id = if m.template = id then some m else s.fieldMap? id :=
  find?_putBy m s.fieldMaps id

theorem mem_of_template {s : Store} {id : String} {t : Template} (h : s.template id = .ok t) :
    t ∈ s.templates := by
  rw [template] at h
  split at h
  · next found hfound =>
      obtain rfl : found = t := Except.ok.inj h
      exact List.mem_of_find?_eq_some hfound
  · cases h

theorem template_eq_error_iff {s : Store} {id : String} {reason : StoreError} :
    s.template id = .error reason ↔
      (∀ t ∈ s.templates, t.id ≠ id) ∧ reason = .templateNotFound id := by
  have hnone : (s.templates.find? fun t => t.id = id) = none ↔ ∀ t ∈ s.templates, t.id ≠ id := by
    simp
  rw [← hnone, template]
  cases s.templates.find? fun t => t.id = id with
  | some t => simp
  | none => simp [eq_comm]

theorem report_eq_error_iff {s : Store} {id : String} {reason : StoreError} :
    s.report id = .error reason ↔
      (∀ r ∈ s.reports, r.id ≠ id) ∧ reason = .reportNotFound id := by
  have hnone : s.reports.find? id = none ↔ ∀ r ∈ s.reports, r.id ≠ id := by
    simp [History.find?]
  rw [← hnone, report]
  cases s.reports.find? id with
  | some r => simp
  | none => simp [eq_comm]

theorem id_of_template {s : Store} {id : String} {t : Template} (h : s.template id = .ok t) :
    t.id = id := by
  rw [template] at h
  split at h
  · next found hfound =>
      obtain rfl : found = t := Except.ok.inj h
      simpa using List.find?_some hfound
  · cases h

end MarkedSheet.Store
