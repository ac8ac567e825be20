/-!
# Words

Operations on 32-bit words that refuse a result which no word can hold.
-/

namespace MarkedSheet.Word

/-- The word of a number, if there is one. -/
def ofNat? (n : Nat) : Option UInt32 :=
  if n < UInt32.size then some (UInt32.ofNat n) else none

def plus? (a b : UInt32) : Option UInt32 :=
  ofNat? (a.toNat + b.toNat)

def times? (a b : UInt32) : Option UInt32 :=
  ofNat? (a.toNat * b.toNat)

theorem ofNat?_eq_some_iff {n : Nat} {w : UInt32} : ofNat? n = some w ↔ w.toNat = n := by
  unfold ofNat?
  split
  · next h =>
      rw [Option.some_inj, ← UInt32.toNat_inj, UInt32.toNat_ofNat_of_lt' h]
      exact eq_comm
  · next h =>
      constructor
      · intro hnone
        cases hnone
      · rintro rfl
        exact absurd w.toNat_lt h

theorem ofNat?_eq_none_iff {n : Nat} : ofNat? n = none ↔ UInt32.size ≤ n := by
  unfold ofNat?
  split
  · next h =>
      constructor
      · intro hsome
        cases hsome
      · intro hle
        exact absurd h (Nat.not_lt.2 hle)
  · next h => exact ⟨fun _ => Nat.not_lt.1 h, fun _ => rfl⟩

theorem ofNat?_toNat (w : UInt32) : ofNat? w.toNat = some w :=
  ofNat?_eq_some_iff.2 rfl

end MarkedSheet.Word
