import Mathlib.Algebra.Ring.Nat
import Mathlib.Data.List.Basic
import Mathlib.Data.List.Induction
import Mathlib.Data.List.TakeWhile
import Mathlib.Data.Nat.Digits.Defs
import MarkedSheet.Decimal.Digits
import MarkedSheet.Text.Blank

/-!
# Digits read back

The digits of a number are read as that number, and only those of zero start with a zero.  Filled up
with zeros to a width that is large enough, a number has exactly that many digits.
-/

namespace MarkedSheet.Decimal

theorem isDigit_of_mem_digits {n : Nat} {c : Char} (h : c ∈ digits n) : c.isDigit = true :=
  Nat.isDigit_of_mem_toDigits (by decide) (by decide) h

theorem digits_ne_nil (n : Nat) : digits n ≠ [] :=
  Nat.toDigits_ne_nil

theorem valueFrom_eq_foldl (seen : Nat) (cs : List Char) :
    valueFrom seen cs = cs.foldl (fun n c => 10 * n + digitValue c) seen := by
  induction cs generalizing seen with
  | nil => rfl
  | cons c cs ih => exact ih _

theorem valueFrom_nil (seen : Nat) : valueFrom seen [] = seen := by
  rw [valueFrom_eq_foldl, List.foldl_nil]

theorem valueFrom_cons (seen : Nat) (c : Char) (cs : List Char) :
    valueFrom seen (c :: cs) = valueFrom (10 * seen + digitValue c) cs := by
  rw [valueFrom_eq_foldl, List.foldl_cons, valueFrom_eq_foldl]

theorem valueFrom_digits (n : Nat) : valueFrom 0 (digits n) = n := by
  have h := Nat.ofDigitChars_toDigits (b := 10) (n := n) (by decide) (by decide)
  rw [Nat.ofDigitChars_eq_foldl] at h
  rw [valueFrom_eq_foldl]
  exact h

theorem value?_digits (n : Nat) : value? (digits n) = some n := by
  have hall : (digits n).all Char.isDigit = true :=
    List.all_eq_true.2 fun _ hc => isDigit_of_mem_digits hc
  rw [value?, if_pos ⟨digits_ne_nil n, hall⟩, valueFrom_digits]

/-- The first digit of a number other than zero is no zero. -/
theorem head?_digits {n : Nat} (h : n ≠ 0) : (digits n).head? ≠ some '0' := by
  induction n using Nat.strongRecOn with
  | ind n ih =>
      rw [digits, Nat.toDigits_eq_if (by decide)]
      split
      · next hsmall =>
          have hall : ∀ k < 10, k ≠ 0 → Nat.digitChar k ≠ '0' := by decide
          simpa using hall n hsmall h
      · next hlarge =>
          have hrest := ih (n / 10) (by omega) (by omega)
          obtain ⟨c, cs, hcs⟩ := List.exists_cons_of_ne_nil (digits_ne_nil (n / 10))
          rw [digits] at hcs hrest
          rw [hcs] at hrest ⊢
          exact hrest

theorem digits_zero : digits 0 = ['0'] := by
  decide

theorem isDigit_iff {c : Char} : c.isDigit = true ↔ 48 ≤ c.toNat ∧ c.toNat ≤ 57 := by
  change (decide (c.val ≥ '0'.val) && decide (c.val ≤ '9'.val)) = true ↔ _
  rw [Bool.and_eq_true, decide_eq_true_iff, decide_eq_true_iff]
  exact Iff.rfl

theorem isBlank_of_isDigit {c : Char} (h : c.isDigit = true) : Text.isBlank c = false := by
  have hc := isDigit_iff.1 h
  simp only [Text.isBlank, Bool.or_eq_false_iff, Bool.and_eq_false_iff, decide_eq_false_iff_not,
    beq_eq_false_iff_ne]
  omega

theorem digitValue_lt_ten {c : Char} (h : c.isDigit = true) : digitValue c < 10 := by
  have hc := isDigit_iff.1 h
  have hzero : '0'.toNat = 48 := rfl
  rw [digitValue, hzero]
  omega

/-- Digits behind a number make it less than its successor followed by as many zeros. -/
theorem valueFrom_lt {cs : List Char} (h : ∀ c ∈ cs, c.isDigit = true) (seen : Nat) :
    valueFrom seen cs < (seen + 1) * 10 ^ cs.length := by
  induction cs generalizing seen with
  | nil =>
      rw [valueFrom_nil, List.length_nil, Nat.pow_zero, Nat.mul_one]
      exact Nat.lt_succ_self seen
  | cons c cs ih =>
      rw [List.forall_mem_cons] at h
      have hvalue := digitValue_lt_ten h.1
      have hrest := ih h.2 (10 * seen + digitValue c)
      have hstep : 10 * seen + digitValue c + 1 ≤ (seen + 1) * 10 := by omega
      rw [valueFrom_cons, List.length_cons, Nat.pow_succ', ← Nat.mul_assoc]
      exact Nat.lt_of_lt_of_le hrest (Nat.mul_le_mul_right _ hstep)

theorem valueFrom_concat (seen : Nat) (cs : List Char) (c : Char) :
    valueFrom seen (cs ++ [c]) = 10 * valueFrom seen cs + digitValue c := by
  rw [valueFrom_eq_foldl, valueFrom_eq_foldl, List.foldl_append, List.foldl_cons, List.foldl_nil]

/-- The number that digits stand for by their places. -/
def number (cs : List Char) : Nat :=
  Nat.ofDigits 10 (cs.reverse.map digitValue)

theorem valueFrom_eq_number (cs : List Char) : valueFrom 0 cs = number cs := by
  induction cs using List.reverseRecOn with
  | nil => rfl
  | append_singleton cs c ih =>
      rw [valueFrom_concat, ih, number, number, List.reverse_append, List.reverse_singleton,
        List.singleton_append, List.map_cons, Nat.ofDigits_cons, Nat.add_comm]

theorem digitChar_digitValue {c : Char} (h : c.isDigit = true) :
    (digitValue c).digitChar = c := by
  have hall : ∀ n < 58, (Char.ofNat n).isDigit = true →
      (digitValue (Char.ofNat n)).digitChar = Char.ofNat n := by
    decide
  have hsmall : c.toNat < 58 := by
    have hrange := isDigit_iff.1 h
    omega
  have hc := hall c.toNat hsmall
  rw [Char.ofNat_toNat] at hc
  exact hc h

/-- Only zeros stand for zero. -/
theorem valueFrom_eq_zero_iff {cs : List Char} (h : ∀ c ∈ cs, c.isDigit = true) :
    valueFrom 0 cs = 0 ↔ cs.dropWhile (fun c => c = '0') = [] := by
  rw [List.dropWhile_eq_nil_iff]
  induction cs using List.reverseRecOn with
  | nil => exact ⟨fun _ _ hc => absurd hc List.not_mem_nil, fun _ => rfl⟩
  | append_singleton cs c ih =>
      rw [List.forall_mem_append, List.forall_mem_singleton] at h
      have hlast : digitValue c = 0 ↔ c = '0' := by
        constructor
        · intro hzero
          rw [← digitChar_digitValue h.2, hzero]
          rfl
        · rintro rfl
          rfl
      rw [valueFrom_concat, Nat.add_eq_zero_iff, Nat.mul_eq_zero, ih h.1, hlast,
        List.forall_mem_append, List.forall_mem_singleton, decide_eq_true_iff]
      simp

/-- A number has the digits that it is read from, without the zeros in front. -/
theorem digits_valueFrom {cs : List Char} (h : ∀ c ∈ cs, c.isDigit = true)
    (hne : valueFrom 0 cs ≠ 0) :
    digits (valueFrom 0 cs) = cs.dropWhile (fun c => c = '0') := by
  induction cs using List.reverseRecOn with
  | nil => exact absurd rfl hne
  | append_singleton cs c ih =>
      rw [List.forall_mem_append, List.forall_mem_singleton] at h
      have hdigit := digitChar_digitValue h.2
      have hlast : digits (digitValue c) = [c] := by
        rw [digits, Nat.toDigits_of_lt_base (digitValue_lt_ten h.2), hdigit]
      rw [valueFrom_concat] at hne ⊢
      rw [List.dropWhile_append]
      by_cases hzero : valueFrom 0 cs = 0
      · have hc : c ≠ '0' := by
          rintro rfl
          exact hne (by rw [hzero]; rfl)
        rw [if_pos (List.isEmpty_iff.2 ((valueFrom_eq_zero_iff h.1).1 hzero)), hzero, Nat.mul_zero,
          Nat.zero_add, hlast, List.dropWhile_cons_of_neg (by simpa using hc)]
      · have hrest : (cs.dropWhile fun c => c = '0').isEmpty = false := by
          rw [List.isEmpty_eq_false_iff, ne_eq, ← valueFrom_eq_zero_iff h.1]
          exact hzero
        rw [if_neg (Bool.eq_false_iff.1 hrest), ← ih h.1 hzero, ← hlast, digits, digits, digits,
          Nat.toDigits_append_toDigits (by decide) (Nat.pos_of_ne_zero hzero)
            (digitValue_lt_ten h.2)]

/-- A text of digits that stands for a number. -/
structure Numeral (cs : List Char) (n : Nat) : Prop where
  isDigit : ∀ c ∈ cs, c.isDigit = true
  value : valueFrom 0 cs = n

theorem Numeral.lt {cs : List Char} {n : Nat} (h : Numeral cs n) : n < 10 ^ cs.length := by
  have hlt := valueFrom_lt h.isDigit 0
  rw [h.value, Nat.zero_add, Nat.one_mul] at hlt
  exact hlt

theorem length_padded {width n : Nat} (hwidth : 0 < width) (h : n < 10 ^ width) :
    (padded '0' width n).length = width := by
  have hlength := (Nat.length_toDigits_le_iff (b := 10) (by decide) hwidth).2 h
  rw [padded, List.length_append, List.length_replicate, digits]
  omega

theorem numeral_padded (width n : Nat) : Numeral (padded '0' width n) n where
  isDigit := by
    intro c hc
    rcases List.mem_append.1 hc with hc | hc
    · rw [List.eq_of_mem_replicate hc]
      rfl
    · exact isDigit_of_mem_digits hc
  value := by
    rw [padded]
    induction width - (digits n).length with
    | zero => exact valueFrom_digits n
    | succ k ih => exact ih

/-- A number written with a fixed count of digits. -/
structure FixedNumeral (width : Nat) (cs : List Char) (n : Nat) : Prop extends Numeral cs n where
  length : cs.length = width

theorem FixedNumeral.lt {width : Nat} {cs : List Char} {n : Nat} (h : FixedNumeral width cs n) :
    n < 10 ^ width := by
  have hlt := h.toNumeral.lt
  rw [h.length] at hlt
  exact hlt

theorem fixedNumeral_one_iff {cs : List Char} {n : Nat} :
    FixedNumeral 1 cs n ↔ ∃ a, cs = [a] ∧ a.isDigit = true ∧ digitValue a = n := by
  have hvalue (a : Char) : valueFrom 0 [a] = digitValue a := by
    rw [valueFrom_cons, valueFrom_nil, Nat.mul_zero, Nat.zero_add]
  constructor
  · intro h
    obtain ⟨a, rfl⟩ := List.length_eq_one_iff.1 h.length
    exact ⟨a, rfl, h.isDigit a (List.mem_singleton_self a), (hvalue a).symm.trans h.value⟩
  · rintro ⟨a, rfl, ha, rfl⟩
    exact ⟨⟨List.forall_mem_singleton.2 ha, hvalue a⟩, rfl⟩

theorem fixedNumeral_two_iff {cs : List Char} {n : Nat} :
    FixedNumeral 2 cs n ↔
      ∃ a b, cs = [a, b] ∧ a.isDigit = true ∧ b.isDigit = true ∧ valueFrom 0 [a, b] = n := by
  constructor
  · intro h
    obtain ⟨a, b, rfl⟩ := List.length_eq_two.1 h.length
    obtain ⟨ha, hb⟩ := List.forall_mem_cons.1 h.isDigit
    exact ⟨a, b, rfl, ha, hb b (List.mem_singleton_self b), h.value⟩
  · rintro ⟨a, b, rfl, ha, hb, rfl⟩
    exact ⟨⟨List.forall_mem_cons.2 ⟨ha, List.forall_mem_singleton.2 hb⟩, rfl⟩, rfl⟩

theorem fixedNumeral_padded {width n : Nat} (hwidth : 0 < width) (h : n < 10 ^ width) :
    FixedNumeral width (padded '0' width n) n :=
  ⟨numeral_padded width n, length_padded hwidth h⟩

end MarkedSheet.Decimal
