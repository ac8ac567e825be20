import Mathlib.Data.List.Nodup
import MarkedSheet.Proofs.FirstOccurrences
import MarkedSheet.Registry.Basic

/-!
# Looking up codes

Codes are distinct, so that an entry is what looking up its code finds.  The index finds what a
search through the entries would find.
-/

namespace MarkedSheet.Registry

theorem lookup_eq_some_iff (r : Registry) {code : String} {e : Entry} :
    r.lookup code = some e ↔ e ∈ r.entries ∧ e.code = code := by
  constructor
  · exact code_of_lookup
  · rintro ⟨he, rfl⟩
    obtain ⟨i, hi, rfl⟩ := List.mem_iff_getElem.1 he
    have hposition : r.index.position? r.entries[i].code = some i := by
      rw [r.indexed, List.getElem?_map, List.getElem?_eq_getElem hi]
      rfl
    exact Option.pmap_eq_some_iff.2 ⟨i, hi, hposition, rfl⟩

theorem lookup_eq_find? (r : Registry) (code : String) :
    r.lookup code = r.entries.find? fun e => e.code = code := by
  ext e
  rw [lookup_eq_some_iff]
  constructor
  · rintro ⟨he, rfl⟩
    exact find?_of_nodup r.distinct he
  · intro hfound
    exact ⟨List.mem_of_find?_eq_some hfound, by simpa using List.find?_some hfound⟩

end MarkedSheet.Registry
