import MarkedSheet.Proofs.Address.Text

/-!
# Texts that are read as addresses

The texts that spell an address are described by their letters and digits and the numbers that these
stand for.  Exactly those texts are read, as the column and the row that they spell.  What is read
is written with capital letters and without zeros in front.
-/

namespace MarkedSheet.Address

open Text (IsRun)

/-- A text of letters and digits that stand for a column and a row from 1 on, both of which a word
can hold. -/
structure Spells (cs letters digits : List Char) : Prop where
  eq_append : cs = letters ++ digits
  isAlpha : IsRun Char.isAlpha letters
  isDigit : IsRun Char.isDigit digits
  column_lt : columnNumber letters < UInt32.size
  row_pos : 0 < Decimal.number digits
  row_lt : Decimal.number digits < UInt32.size

/-- The column of an address is that of some letters, and its row is that of some digits. -/
structure IsAt (a : Address) (letters digits : List Char) : Prop where
  column : a.col.toNat = columnNumber letters
  row : a.row.toNat = Decimal.number digits

/-- What reading makes of a text. -/
structure Reads (text : String) (result : Except InvalidAddress Address) : Prop where
  accepts : ∀ letters digits, Spells (Text.trim text.toList) letters digits →
    ∃ a, result = .ok a ∧ a.IsAt letters digits ∧
      a.text = String.ofList (letters.map Char.toUpper ++ digits.dropWhile fun c => c = '0')
  accepted : ∀ a, result = .ok a → ∃ letters digits,
    Spells (Text.trim text.toList) letters digits ∧ a.IsAt letters digits
  refused : ∀ e, result = .error e → e = ⟨text⟩

theorem isDigit_of_isAlpha {c : Char} (h : c.isAlpha = true) : c.isDigit = false := by
  rw [Text.isAlpha_iff] at h
  rw [Bool.eq_false_iff, ne_eq, Decimal.isDigit_iff]
  omega

theorem row?_of_isRun {cs : List Char} (h : IsRun Char.isDigit cs) :
    row? cs = (Word.ofNat? (Decimal.number cs)).filter fun row => row ≠ 0 := by
  rw [row?, Decimal.value?, if_pos ⟨h.1, List.all_eq_true.2 h.2⟩, Option.bind_some,
    Decimal.valueFrom_eq_number]

theorem row?_eq_some_iff {cs : List Char} {row : UInt32} :
    row? cs = some row ↔
      IsRun Char.isDigit cs ∧ row.toNat = Decimal.number cs ∧ 0 < Decimal.number cs := by
  have hzero : ∀ n : Nat, row.toNat = n → (decide (row ≠ 0) = true ↔ 0 < n) := by
    rintro n rfl
    rw [decide_eq_true_iff, Nat.pos_iff_ne_zero, ne_eq, ne_eq, ← UInt32.toNat_inj]
    exact Iff.rfl
  constructor
  · intro h
    have hrun : IsRun Char.isDigit cs := by
      rw [row?, Option.filter_eq_some_iff, Option.bind_eq_some_iff] at h
      obtain ⟨⟨n, hvalue, -⟩, -⟩ := h
      rw [Decimal.value?] at hvalue
      split at hvalue
      · next hdigits => exact ⟨hdigits.1, List.all_eq_true.1 hdigits.2⟩
      · cases hvalue
    rw [row?_of_isRun hrun, Option.filter_eq_some_iff, Word.ofNat?_eq_some_iff] at h
    exact ⟨hrun, h.1, (hzero _ h.1).1 h.2⟩
  · rintro ⟨hrun, hrow, hpos⟩
    rw [row?_of_isRun hrun, Option.filter_eq_some_iff, Word.ofNat?_eq_some_iff]
    exact ⟨hrow, (hzero _ hrow).2 hpos⟩

theorem column?_eq_some_iff {cs : List Char} {col : UInt32} :
    column? cs = some col ↔ IsRun Char.isAlpha cs ∧ col.toNat = columnNumber cs := by
  constructor
  · intro h
    have hrun : IsRun Char.isAlpha cs := by
      rw [column?] at h
      split at h
      · next hletters => exact ⟨hletters.1, List.all_eq_true.1 hletters.2⟩
      · cases h
    rw [column?_of_isRun hrun, Word.ofNat?_eq_some_iff] at h
    exact ⟨hrun, h⟩
  · rintro ⟨hrun, hcol⟩
    rw [column?_of_isRun hrun, Word.ofNat?_eq_some_iff]
    exact hcol

/-- The letters of a text end where its digits begin. -/
theorem Spells.cut {cs letters digits : List Char} (h : Spells cs letters digits) :
    cs.takeWhile (fun c => !c.isDigit) = letters ∧
      cs.dropWhile (fun c => !c.isDigit) = digits := by
  have hletters : ∀ c ∈ letters, (!c.isDigit) = true := fun c hc => by
    rw [isDigit_of_isAlpha (h.isAlpha.2 c hc)]
    rfl
  have hdigits : ∀ c ∈ digits.head?, (!c.isDigit) = false := fun c hc => by
    rw [h.isDigit.2 c (List.mem_of_head? hc)]
    rfl
  rw [h.eq_append]
  exact ⟨Text.takeWhile_run hletters hdigits, Text.dropWhile_run hletters hdigits⟩

theorem read?_of_spells {cs letters digits : List Char}
    (h : Spells (Text.trim cs) letters digits) :
    ∃ a, read? cs = some a ∧ a.IsAt letters digits := by
  obtain ⟨htake, hdrop⟩ := h.cut
  obtain ⟨col, hcol⟩ : ∃ col : UInt32, col.toNat = columnNumber letters :=
    ⟨UInt32.ofNat _, UInt32.toNat_ofNat_of_lt' h.column_lt⟩
  obtain ⟨row, hrow⟩ : ∃ row : UInt32, row.toNat = Decimal.number digits :=
    ⟨UInt32.ofNat _, UInt32.toNat_ofNat_of_lt' h.row_lt⟩
  refine ⟨⟨row, col⟩, ?_, hcol, hrow⟩
  simp only [read?, htake, hdrop, column?_eq_some_iff.2 ⟨h.isAlpha, hcol⟩,
    row?_eq_some_iff.2 ⟨h.isDigit, hrow, h.row_pos⟩]

theorem spells_of_read? {cs : List Char} {a : Address} (h : read? cs = some a) :
    ∃ letters digits, Spells (Text.trim cs) letters digits ∧ a.IsAt letters digits := by
  simp only [read?] at h
  split at h
  · next col row hcol hrow =>
      cases h
      rw [column?_eq_some_iff] at hcol
      rw [row?_eq_some_iff] at hrow
      obtain ⟨hletters, hcol⟩ := hcol
      obtain ⟨hdigits, hrow, hpos⟩ := hrow
      refine ⟨_, _, ⟨List.takeWhile_append_dropWhile.symm, hletters, hdigits, ?_, hpos, ?_⟩, hcol,
        hrow⟩
      · exact hcol ▸ col.toNat_lt
      · exact hrow ▸ row.toNat_lt
  · cases h

/-- Letters of either case stand for the column that is written with their capitals. -/
theorem letters_columnNumber {places : Nat} {ls : List Char} (h : ∀ c ∈ ls, c.isAlpha = true)
    (hlt : columnNumber ls < 26 ^ places) :
    letters places (columnNumber ls) = ls.map Char.toUpper := by
  induction ls using List.reverseRecOn generalizing places with
  | nil => cases places <;> rfl
  | append_singleton ls c ih =>
      rw [List.forall_mem_append, List.forall_mem_singleton] at h
      obtain ⟨hletter, hpos, hle⟩ := letter_letterValue h.2
      rw [columnNumber_concat] at hlt ⊢
      cases places with
      | zero => omega
      | succ places =>
          have hrest : (letterValue c + 26 * columnNumber ls - 1) / 26 = columnNumber ls := by
            omega
          have hlast : (letterValue c + 26 * columnNumber ls - 1) % 26 = letterValue c - 1 := by
            omega
          rw [letters, if_neg (by omega), hrest, hlast, hletter, ih h.1 (by omega),
            List.map_append, List.map_singleton]

theorem text_of_spells {cs letters digits : List Char} {a : Address}
    (h : Spells cs letters digits) (ha : a.IsAt letters digits) :
    a.text = String.ofList (letters.map Char.toUpper ++ digits.dropWhile fun c => c = '0') := by
  have hwords : UInt32.size < 26 ^ 7 := by decide
  have hsmall : columnNumber letters < 26 ^ 7 := Nat.lt_trans h.column_lt hwords
  have hpos : Decimal.valueFrom 0 digits ≠ 0 := by
    rw [Decimal.valueFrom_eq_number]
    exact Nat.ne_of_gt h.row_pos
  rw [text, chars, columnLetters, ha.column, letters_columnNumber h.isAlpha.2 hsmall, ha.row,
    ← Decimal.valueFrom_eq_number, Decimal.digits_valueFrom h.isDigit.2 hpos]

theorem parse_eq_ok_iff {text : String} {a : Address} :
    parse text = .ok a ↔ read? text.toList = some a := by
  rw [parse]
  cases read? text.toList <;> simp

/-- An address from 1 on is read back from its text, and every text is read exactly when it spells
an address, as that address. -/
theorem parse_reads :
    (∀ a : Address, parse a.text = .ok a ↔ a.row ≠ 0 ∧ a.col ≠ 0) ∧
      ∀ text, Reads text (parse text) := by
  refine ⟨fun a => parse_text_iff, fun text => ⟨?_, ?_, ?_⟩⟩
  · intro letters digits hspells
    obtain ⟨a, hread, ha⟩ := read?_of_spells hspells
    exact ⟨a, parse_eq_ok_iff.2 hread, ha, text_of_spells hspells ha⟩
  · intro a h
    exact spells_of_read? (parse_eq_ok_iff.1 h)
  · intro e h
    rw [parse] at h
    split at h
    · cases h
    · exact (Except.error.inj h).symm

example : parse " mwlqKWU0004294967295 " = .ok ⟨4294967295, 4294967295⟩ := by
  decide

example : parse "MWLQKWV1" = .error ⟨"MWLQKWV1"⟩ := by
  decide

end MarkedSheet.Address
