import MarkedSheet.Proofs.Registry.Lookup
import MarkedSheet.Registry.Standard

/-!
# Entries that make up a registry

A list of entries makes up a registry exactly when all codes start with `#` and no two of them are
the same.  Another list is refused at the first entry that is not marked or repeats a code.  The
order of the entries makes no difference to what is found under a code.
-/

namespace MarkedSheet.Registry

/-- Every code starts with `#`, and no two codes are the same. -/
structure Faultless (entries : List Entry) : Prop where
  marked : ∀ e ∈ entries, e.code.toList.head? = some '#'
  distinct : (entries.map Entry.code).Nodup

/-- Why an entry is refused that comes after others.  A code that is repeated has its mark. -/
inductive RefusedAfter (before : List Entry) (e : Entry) : RegistryError → Prop where
  | unmarked (h : e.code.toList.head? ≠ some '#') : RefusedAfter before e (.missingMark e.code)
  | repeated (hmark : e.code.toList.head? = some '#') (h : ∃ d ∈ before, d.code = e.code) :
      RefusedAfter before e (.duplicateCode e.code)

/-- The first of the entries for which there is a reason is refused for this reason. -/
def FirstRefused (entries : List Entry) (reason : RegistryError) : Prop :=
  ∃ before e after, entries = before ++ e :: after ∧ Faultless before ∧
    RefusedAfter before e reason

theorem Faultless.perm {entries others : List Entry} (h : Faultless entries)
    (hperm : others.Perm entries) : Faultless others :=
  ⟨fun e he => h.marked e (hperm.mem_iff.1 he), (hperm.map Entry.code).nodup_iff.2 h.distinct⟩

theorem Faultless.of_append {entries rest : List Entry} (h : Faultless (entries ++ rest)) :
    Faultless entries :=
  ⟨fun e he => h.marked e (List.mem_append_left _ he),
    h.distinct.sublist ((List.sublist_append_left entries rest).map Entry.code)⟩

section Entering

variable {x : CodeIndex} {before rest : List Entry} {e : Entry} {reason : RegistryError}

theorem not_refusedAfter_iff : (∀ reason, ¬ RefusedAfter before e reason) ↔
    e.code.toList.head? = some '#' ∧ e.code ∉ before.map Entry.code := by
  rw [List.mem_map]
  constructor
  · intro hnot
    have hmark : e.code.toList.head? = some '#' := by
      by_contra hmark
      exact hnot _ (.unmarked hmark)
    exact ⟨hmark, fun hrepeated => hnot _ (.repeated hmark hrepeated)⟩
  · rintro ⟨hmark, hnew⟩ reason (hunmarked | ⟨-, hrepeated⟩)
    · exact hunmarked hmark
    · exact hnew hrepeated

theorem faultless_concat_iff :
    Faultless (before ++ [e]) ↔ Faultless before ∧ ∀ reason, ¬ RefusedAfter before e reason := by
  have hcodes : ((before ++ [e]).map Entry.code).Nodup ↔
      e.code ∉ before.map Entry.code ∧ (before.map Entry.code).Nodup := by
    rw [List.map_append, List.map_singleton, (List.perm_append_singleton _ _).nodup_iff,
      List.nodup_cons]
  rw [not_refusedAfter_iff]
  constructor
  · intro h
    obtain ⟨hnew, hdistinct⟩ := hcodes.1 h.distinct
    exact ⟨⟨fun d hd => h.marked d (List.mem_append_left _ hd), hdistinct⟩,
      h.marked e (by simp), hnew⟩
  · rintro ⟨h, hmark, hnew⟩
    refine ⟨?_, hcodes.2 ⟨hnew, h.distinct⟩⟩
    rw [List.forall_mem_append, List.forall_mem_singleton]
    exact ⟨h.marked, hmark⟩

/-- Entries are without fault, or there is a first one that is refused. -/
theorem faultless_or_refused (entries : List Entry) :
    Faultless entries ∨ ∃ reason, FirstRefused entries reason := by
  induction entries using List.reverseRecOn with
  | nil => exact Or.inl ⟨by simp, by simp⟩
  | append_singleton entries e ih =>
      rcases ih with h | ⟨reason, before, d, after, rfl, h, hrefused⟩
      · by_cases hnot : ∀ reason, ¬ RefusedAfter entries e reason
        · exact Or.inl (faultless_concat_iff.2 ⟨h, hnot⟩)
        · rw [not_forall_not] at hnot
          obtain ⟨reason, hrefused⟩ := hnot
          exact Or.inr ⟨reason, entries, e, [], rfl, h, hrefused⟩
      · exact Or.inr ⟨reason, before, d, after ++ [e], by simp, h, hrefused⟩

/-- An entry that is refused ends the entering. -/
theorem enter_of_refused (h : x.Indexes before) (hrefused : RefusedAfter before e reason) :
    x.enter before.length (e :: rest) = .error reason := by
  rw [CodeIndex.enter]
  cases hrefused with
  | unmarked hmark => rw [if_neg (by simpa [Entry.isMarked] using hmark)]
  | repeated hmark hrepeated =>
      obtain ⟨d, hd, hcode⟩ := hrepeated
      have hknown : x.position? e.code ≠ none := by
        rw [Ne, h.position?_eq_none_iff, not_not, ← hcode]
        exact List.mem_map_of_mem hd
      obtain ⟨i, hi⟩ := Option.ne_none_iff_exists'.1 hknown
      rw [if_pos (by simpa [Entry.isMarked] using hmark)]
      simp [CodeIndex.insert, hi]

/-- An entry for which there is no reason comes into the index before the others. -/
theorem enter_cons (rest : List Entry) (h : x.Indexes before)
    (hnot : ∀ reason, ¬ RefusedAfter before e reason) :
    x.enter before.length (e :: rest) =
        (x.insert e.code before.length).2.enter (before ++ [e]).length rest ∧
      (x.insert e.code before.length).2.Indexes (before ++ [e]) := by
  obtain ⟨hmark, hcode⟩ := not_refusedAfter_iff.1 hnot
  have hnew : x.position? e.code = none := h.position?_eq_none_iff.2 hcode
  refine ⟨?_, h.insert hnew⟩
  rw [CodeIndex.enter, if_pos (by simpa [Entry.isMarked] using hmark), List.length_append,
    List.length_singleton]
  simp [CodeIndex.insert, hnew]

/-- Entries without fault are all entered before the entries behind them. -/
theorem exists_enter_append (later : List Entry) (h : x.Indexes before)
    (hfaultless : Faultless (before ++ rest)) :
    ∃ y : CodeIndex, y.Indexes (before ++ rest) ∧
      x.enter before.length (rest ++ later) = y.enter (before ++ rest).length later := by
  induction rest generalizing x before with
  | nil => exact ⟨x, by rwa [List.append_nil], by rw [List.append_nil, List.nil_append]⟩
  | cons e rest ih =>
      have hsplit : before ++ e :: rest = (before ++ [e]) ++ rest := by simp
      rw [hsplit] at hfaultless ⊢
      have hnot := (faultless_concat_iff.1 hfaultless.of_append).2
      obtain ⟨hstep, hindexes⟩ := enter_cons (rest ++ later) h hnot
      obtain ⟨y, hy, hrest⟩ := ih hindexes hfaultless
      exact ⟨y, hy, hstep.trans hrest⟩

end Entering

section Building

variable {entries : List Entry} {reason : RegistryError}

theorem ofEntries_of_ok {index : CodeIndex} (h : CodeIndex.empty.enter 0 entries = .ok index) :
    ofEntries entries = .ok (ofIndex h) := by
  unfold ofEntries
  split
  · next hother => simp [h] at hother
  · next other hother =>
      obtain rfl : index = other := Except.ok.inj (h.symm.trans hother)
      rfl

theorem ofEntries_of_error (h : CodeIndex.empty.enter 0 entries = .error reason) :
    ofEntries entries = .error reason := by
  unfold ofEntries
  split
  · next other hother =>
      obtain rfl : reason = other := Except.error.inj (h.symm.trans hother)
      rfl
  · next hother => simp [h] at hother

theorem exists_ofEntries (h : Faultless entries) :
    ∃ r, ofEntries entries = .ok r ∧ r.entries = entries := by
  obtain ⟨index, -, henter⟩ := exists_enter_append [] CodeIndex.indexes_empty h
  rw [List.append_nil] at henter
  exact ⟨_, ofEntries_of_ok henter, rfl⟩

theorem ofEntries_of_firstRefused (h : FirstRefused entries reason) :
    ofEntries entries = .error reason := by
  obtain ⟨before, e, after, rfl, hfaultless, hrefused⟩ := h
  obtain ⟨x, hx, henter⟩ :=
    exists_enter_append (e :: after) CodeIndex.indexes_empty hfaultless
  exact ofEntries_of_error (henter.trans (enter_of_refused hx hrefused))

/-- There is a registry of these entries or a reason, and never both. -/
theorem ofEntries_cases (entries : List Entry) :
    (Faultless entries ∧ ∃ r, ofEntries entries = .ok r ∧ r.entries = entries) ∨
      ∃ reason, FirstRefused entries reason ∧ ofEntries entries = .error reason := by
  rcases faultless_or_refused entries with h | ⟨reason, h⟩
  · exact Or.inl ⟨h, exists_ofEntries h⟩
  · exact Or.inr ⟨reason, h, ofEntries_of_firstRefused h⟩

theorem ofEntries_eq_error_iff :
    ofEntries entries = .error reason ↔ FirstRefused entries reason := by
  refine ⟨fun herror => ?_, ofEntries_of_firstRefused⟩
  rcases ofEntries_cases entries with ⟨-, r, hr, -⟩ | ⟨other, h, hother⟩
  · rw [hr] at herror
    cases herror
  · obtain rfl : other = reason := Except.error.inj (hother.symm.trans herror)
    exact h

/-- A registry has the entries that it was made of, which are without fault. -/
theorem of_ofEntries_eq_ok {r : Registry} (h : ofEntries entries = .ok r) :
    Faultless entries ∧ r.entries = entries := by
  rcases ofEntries_cases entries with ⟨hfaultless, s, hs, hentries⟩ | ⟨reason, -, hreason⟩
  · obtain rfl : s = r := Except.ok.inj (hs.symm.trans h)
    exact ⟨hfaultless, hentries⟩
  · rw [hreason] at h
    cases h

end Building

/-- What becomes of entries, and what is found in the registry of those that are accepted. -/
structure Entered (entries : List Entry) : Prop where
  accepted_iff : (∃ r, ofEntries entries = .ok r) ↔
    (∀ e ∈ entries, e.code.toList.head? = some '#') ∧ (entries.map Entry.code).Nodup
  refused_iff : ∀ reason, ofEntries entries = .error reason ↔ FirstRefused entries reason
  listed : ∀ r, ofEntries entries = .ok r → r.entries = entries
  /-- The index finds the entry that is the first one with its code, and no code besides. -/
  searched : ∀ r, ofEntries entries = .ok r →
    ∀ code, r.lookup code = entries.find? fun e => e.code = code
  found : ∀ r, ofEntries entries = .ok r → ∀ e ∈ entries, r.lookup e.code = some e
  reordered : ∀ r, ofEntries entries = .ok r → ∀ others, others.Perm entries →
    ∃ s, ofEntries others = .ok s ∧ ∀ code, s.lookup code = r.lookup code

/-- Entries are checked and indexed in one pass, and looking them up is like searching for them. -/
theorem ofEntries_entered (entries : List Entry) : Entered entries := by
  constructor
  case accepted_iff =>
    constructor
    · rintro ⟨r, hr⟩
      obtain ⟨hfaultless, -⟩ := of_ofEntries_eq_ok hr
      exact ⟨hfaultless.marked, hfaultless.distinct⟩
    · rintro ⟨hmarked, hdistinct⟩
      obtain ⟨r, hr, -⟩ := exists_ofEntries ⟨hmarked, hdistinct⟩
      exact ⟨r, hr⟩
  case refused_iff => exact fun reason => ofEntries_eq_error_iff
  case listed => exact fun r hr => (of_ofEntries_eq_ok hr).2
  case searched =>
    intro r hr code
    rw [lookup_eq_find?, (of_ofEntries_eq_ok hr).2]
  case found =>
    intro r hr e he
    rw [lookup_eq_some_iff, (of_ofEntries_eq_ok hr).2]
    exact ⟨he, rfl⟩
  case reordered =>
    intro r hr others hperm
    obtain ⟨hfaultless, hentries⟩ := of_ofEntries_eq_ok hr
    obtain ⟨s, hs, hothers⟩ := exists_ofEntries (hfaultless.perm hperm)
    refine ⟨s, hs, fun code => ?_⟩
    ext e
    rw [lookup_eq_some_iff, lookup_eq_some_iff, hothers, hentries, hperm.mem_iff]

/-- The standard codes are what their entries make up. -/
theorem ofEntries_standardEntries : ofEntries standardEntries = .ok standard :=
  ofEntries_of_ok enter_standardEntries

end MarkedSheet.Registry
