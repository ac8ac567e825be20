import Mathlib.Data.List.Induction
import Mathlib.Data.Nat.Digits.Defs
import MarkedSheet.Address
import MarkedSheet.Proofs.Decimal.Digits
import MarkedSheet.Proofs.Text.Runs
import MarkedSheet.Proofs.Text.Trimmed

/-!
# The text of an address

Letters stand for a column in bijective base 26, and reading them letter by letter finds that column
exactly when a word can hold it.  An address with a row and a column from 1 on is read back from its
text.
-/

namespace MarkedSheet.Address

/-- The number that letters stand for in bijective base 26. -/
def columnNumber (letters : List Char) : Nat :=
  Nat.ofDigits 26 (letters.reverse.map letterValue)

theorem columnNumber_concat (letters : List Char) (c : Char) :
    columnNumber (letters ++ [c]) = letterValue c + 26 * columnNumber letters := by
  rw [columnNumber, List.reverse_append, List.reverse_singleton, List.singleton_append,
    List.map_cons, Nat.ofDigits_cons, columnNumber]

theorem letterValue_letter {n : Nat} (h : n < 26) : letterValue (letter n) = n + 1 := by
  have hall : ∀ k < 26, letterValue (letter k) = k + 1 := by decide
  exact hall n h

theorem isUpper_letter {n : Nat} (h : n < 26) : (letter n).isUpper = true := by
  have hall : ∀ k < 26, (letter k).isUpper = true := by decide
  exact hall n h

/-- A letter of either case has the value of the capital that stands at its place. -/
theorem letter_letterValue {c : Char} (h : c.isAlpha = true) :
    letter (letterValue c - 1) = c.toUpper ∧ 1 ≤ letterValue c ∧ letterValue c ≤ 26 := by
  have hall : ∀ n < 123, (Char.ofNat n).isAlpha = true →
      letter (letterValue (Char.ofNat n) - 1) = (Char.ofNat n).toUpper ∧
        1 ≤ letterValue (Char.ofNat n) ∧ letterValue (Char.ofNat n) ≤ 26 := by
    decide
  have hsmall : c.toNat < 123 := by
    have hrange := Text.isAlpha_iff.1 h
    omega
  have hc := hall c.toNat hsmall
  rw [Char.ofNat_toNat] at hc
  exact hc h

/-- One more letter is read as a number in bijective base 26, if a word can hold it. -/
theorem addLetter?_eq {col : UInt32} {c : Char} (h : c.isAlpha = true) :
    addLetter? col c = Word.ofNat? (letterValue c + 26 * col.toNat) := by
  have hvalue : (UInt32.ofNat (letterValue c)).toNat = letterValue c :=
    UInt32.toNat_ofNat_of_lt' (Nat.lt_of_le_of_lt (letter_letterValue h).2.2 (by decide))
  have hproduct : col.toNat * (26 : UInt32).toNat = 26 * col.toNat := Nat.mul_comm _ _
  rw [addLetter?, Word.times?, hproduct]
  cases hword : Word.ofNat? (26 * col.toNat) with
  | none =>
      rw [Word.ofNat?_eq_none_iff] at hword
      exact (Word.ofNat?_eq_none_iff.2 (Nat.le_add_left_of_le hword)).symm
  | some product =>
      rw [Word.ofNat?_eq_some_iff] at hword
      rw [Option.bind_some, Word.plus?, hvalue, hword, Nat.add_comm]

/-- Reading letter by letter refuses exactly the columns that are too large for a word. -/
theorem foldlM_addLetter? {letters : List Char} (h : ∀ c ∈ letters, c.isAlpha = true) :
    letters.foldlM addLetter? 0 = Word.ofNat? (columnNumber letters) := by
  induction letters using List.reverseRecOn with
  | nil => rfl
  | append_singleton letters c ih =>
      rw [List.forall_mem_append, List.forall_mem_singleton] at h
      rw [List.foldlM_append, ih h.1, columnNumber_concat]
      cases hcolumn : Word.ofNat? (columnNumber letters) with
      | none =>
          rw [Word.ofNat?_eq_none_iff] at hcolumn
          refine (Word.ofNat?_eq_none_iff.2 ?_).symm
          omega
      | some col =>
          rw [Word.ofNat?_eq_some_iff] at hcolumn
          rw [← hcolumn, ← addLetter?_eq h.2]
          exact bind_pure (addLetter? col c)

theorem column?_of_isRun {letters : List Char} (h : Text.IsRun Char.isAlpha letters) :
    column? letters = Word.ofNat? (columnNumber letters) := by
  rw [column?, if_pos ⟨h.1, List.all_eq_true.2 h.2⟩, foldlM_addLetter? h.2]

/-- Bijective base 26: the last letter is the remainder of the number before. -/
theorem columnNumber_letters {places n : Nat} (h : n < 26 ^ places) :
    columnNumber (letters places n) = n := by
  induction places generalizing n with
  | zero =>
      have hzero : n = 0 := by omega
      rw [hzero]
      rfl
  | succ places ih =>
      rw [letters]
      split
      · next hzero =>
          rw [hzero]
          rfl
      · next hpos =>
          have hrest : (n - 1) / 26 < 26 ^ places := by omega
          rw [columnNumber_concat, ih hrest, letterValue_letter (Nat.mod_lt _ (by decide))]
          omega

theorem isUpper_of_mem_letters {places n : Nat} {c : Char} (h : c ∈ letters places n) :
    c.isUpper = true := by
  induction places generalizing n with
  | zero => cases h
  | succ places ih =>
      rw [letters] at h
      split at h
      · cases h
      · rw [List.mem_append, List.mem_singleton] at h
        rcases h with h | rfl
        · exact ih h
        · exact isUpper_letter (Nat.mod_lt _ (by decide))

theorem isUpper_iff {c : Char} : c.isUpper = true ↔ 65 ≤ c.toNat ∧ c.toNat ≤ 90 := by
  change decide (c.val ≥ 'A'.val ∧ c.val ≤ 'Z'.val) = true ↔ _
  rw [decide_eq_true_iff]
  exact Iff.rfl

theorem isDigit_of_isUpper {c : Char} (h : c.isUpper = true) : c.isDigit = false := by
  rw [isUpper_iff] at h
  rw [Bool.eq_false_iff, ne_eq, Decimal.isDigit_iff]
  omega

section Chars

variable (a : Address)

/-- An address holds capital letters and digits only, none of which is blank. -/
theorem trim_chars : Text.trim a.chars = a.chars := by
  refine Text.trim_eq_of_forall fun c hc => ?_
  have hrange : 48 ≤ c.toNat ∧ c.toNat ≤ 90 := by
    rw [chars, List.mem_append] at hc
    rcases hc with hc | hc
    · have hupper := isUpper_iff.1 (isUpper_of_mem_letters hc)
      omega
    · have hdigit := Decimal.isDigit_iff.1 (Decimal.isDigit_of_mem_digits hc)
      omega
  simp [Text.isBlank]
  omega

/-- The letters of an address end where its digits begin. -/
theorem takeWhile_chars : a.chars.takeWhile (fun c => !c.isDigit) = columnLetters a.col := by
  have hletters : ∀ c ∈ columnLetters a.col, (!c.isDigit) = true := fun c hc => by
    simp [isDigit_of_isUpper (isUpper_of_mem_letters hc)]
  obtain ⟨d, ds, hds⟩ := List.exists_cons_of_ne_nil (Decimal.digits_ne_nil a.row.toNat)
  have hd : d.isDigit = true := Decimal.isDigit_of_mem_digits (hds ▸ List.mem_cons_self)
  rw [chars, List.takeWhile_append_of_pos hletters, hds]
  simp [hd]

theorem dropWhile_chars :
    a.chars.dropWhile (fun c => !c.isDigit) = Decimal.digits a.row.toNat := by
  have h := List.takeWhile_append_dropWhile (p := fun c : Char => !c.isDigit) (l := a.chars)
  rw [takeWhile_chars] at h
  exact List.append_cancel_left h

end Chars

theorem columnNumber_columnLetters (col : UInt32) :
    columnNumber (columnLetters col) = col.toNat :=
  columnNumber_letters (Nat.lt_trans col.toNat_lt (by decide))

/-- Only column 0 has no letters. -/
theorem columnLetters_eq_nil_iff {col : UInt32} : columnLetters col = [] ↔ col = 0 := by
  constructor
  · intro h
    have hnumber := columnNumber_columnLetters col
    rw [h] at hnumber
    exact UInt32.toNat_inj.1 hnumber.symm
  · rintro rfl
    rfl

theorem column?_columnLetters (col : UInt32) :
    column? (columnLetters col) = if col = 0 then none else some col := by
  split
  · next hzero =>
      rw [columnLetters_eq_nil_iff.2 hzero]
      rfl
  · next hne =>
      have hrun : Text.IsRun Char.isAlpha (columnLetters col) :=
        ⟨fun hnil => hne (columnLetters_eq_nil_iff.1 hnil),
          fun c hc => Bool.or_eq_true_iff.2 (.inl (isUpper_of_mem_letters hc))⟩
      rw [column?_of_isRun hrun, columnNumber_columnLetters, Word.ofNat?_toNat]

theorem row?_digits (row : UInt32) :
    row? (Decimal.digits row.toNat) = if row = 0 then none else some row := by
  rw [row?, Decimal.value?_digits, Option.bind_some, Word.ofNat?_toNat]
  by_cases h : row = 0 <;> simp [h]

theorem read?_chars (a : Address) :
    read? a.chars = if a.row = 0 ∨ a.col = 0 then none else some a := by
  simp only [read?, trim_chars, takeWhile_chars, dropWhile_chars, column?_columnLetters,
    row?_digits]
  by_cases hcol : a.col = 0 <;> by_cases hrow : a.row = 0 <;> simp [hcol, hrow]

/-- An address is read back from its text exactly when its row and its column count from 1. -/
theorem parse_text_iff {a : Address} : parse a.text = .ok a ↔ a.row ≠ 0 ∧ a.col ≠ 0 := by
  rw [parse, text, String.toList_ofList, read?_chars, ← not_or]
  by_cases h : a.row = 0 ∨ a.col = 0 <;> simp only [h, if_true, if_false]
  · simp
  · simp

theorem parse_text {a : Address} (hrow : a.row ≠ 0) (hcol : a.col ≠ 0) :
    parse a.text = .ok a :=
  parse_text_iff.2 ⟨hrow, hcol⟩

end MarkedSheet.Address
