import MarkedSheet.Decimal.Digits
import MarkedSheet.Text.Blank
import MarkedSheet.Word

/-!
# Cell addresses

A cell is addressed by letters for its column and a number for its row, as in `B30`.  Columns count
in bijective base 26: `A` to `Z`, then `AA`.  Rows and columns are 32-bit words, addresses order by
row first, and only rows and columns from 1 on have an address that can be read back.
-/

namespace MarkedSheet

/-- The position of a cell by row and column. -/
structure Address where
  row : UInt32
  col : UInt32
  deriving DecidableEq, Repr

/-- The text that was to be an address and is none. -/
structure InvalidAddress where
  text : String
  deriving DecidableEq, Repr

def InvalidAddress.message (e : InvalidAddress) : String :=
  "invalid cell address '" ++ e.text ++ "'"

namespace Address

/-- Rows come before columns in the order of addresses. -/
instance : LT Address where
  lt a b := a.row < b.row ∨ (a.row = b.row ∧ a.col < b.col)

instance (a b : Address) : Decidable (a < b) :=
  inferInstanceAs (Decidable (a.row < b.row ∨ (a.row = b.row ∧ a.col < b.col)))

/-- The cell of the same column on another row. -/
def withRow (a : Address) (row : UInt32) : Address :=
  { a with row := row }

/-- The letter with value `n + 1` in the numbering of columns. -/
def letter (n : Nat) : Char :=
  Char.ofNat ('A'.toNat + n)

/-- The last `places` letters of column `n`; column 0 has none. -/
def letters : Nat → Nat → List Char
  | 0, _ => []
  | places + 1, n =>
      if n = 0 then []
      else letters places ((n - 1) / 26) ++ [letter ((n - 1) % 26)]

/-- The letters of a column; seven are enough for every 32-bit word. -/
def columnLetters (col : UInt32) : List Char :=
  letters 7 col.toNat

/-- The characters of an address: the letters of its column and the digits of its row. -/
def chars (a : Address) : List Char :=
  columnLetters a.col ++ Decimal.digits a.row.toNat

def text (a : Address) : String :=
  String.ofList a.chars

/-- The value of a letter of either case, from 1 to 26. -/
def letterValue (c : Char) : Nat :=
  c.toUpper.toNat - 'A'.toNat + 1

/-- The column with one more letter, unless it is too large for a word. -/
def addLetter? (col : UInt32) (c : Char) : Option UInt32 :=
  (Word.times? col 26).bind fun n => Word.plus? n (UInt32.ofNat (letterValue c))

/-- The column named by a nonempty text of ASCII letters. -/
def column? (cs : List Char) : Option UInt32 :=
  if cs ≠ [] ∧ cs.all Char.isAlpha then cs.foldlM addLetter? 0 else none

/-- The row named by a nonempty text of digits; there is no row 0. -/
def row? (cs : List Char) : Option UInt32 :=
  ((Decimal.value? cs).bind Word.ofNat?).filter fun row => row ≠ 0

/-- The address that a text, apart from blanks around it, stands for. -/
def read? (cs : List Char) : Option Address :=
  let t := Text.trim cs
  let isLetter := fun c : Char => !c.isDigit
  match column? (t.takeWhile isLetter), row? (t.dropWhile isLetter) with
  | some col, some row => some ⟨row, col⟩
  | _, _ => none

/-- The address that a text stands for, or its refusal. -/
def parse (text : String) : Except InvalidAddress Address :=
  match read? text.toList with
  | some a => .ok a
  | none => .error ⟨text⟩

theorem lt_irrefl (a : Address) : ¬ a < a := by
  intro h
  rcases h with h | ⟨_, h⟩
  · exact UInt32.lt_irrefl _ h
  · exact UInt32.lt_irrefl _ h

theorem lt_trans {a b c : Address} (hab : a < b) (hbc : b < c) : a < c := by
  rcases hab with hab | ⟨rab, cab⟩ <;> rcases hbc with hbc | ⟨rbc, cbc⟩
  · exact Or.inl (UInt32.lt_trans hab hbc)
  · exact Or.inl (rbc ▸ hab)
  · exact Or.inl (rab ▸ hbc)
  · exact Or.inr ⟨rab.trans rbc, UInt32.lt_trans cab cbc⟩

theorem lt_of_not_lt_of_ne {a b : Address} (h : ¬ a < b) (hne : a ≠ b) : b < a := by
  have hrow : ¬ a.row < b.row := fun hr => h (Or.inl hr)
  by_cases heq : a.row = b.row
  · refine Or.inr ⟨heq.symm, ?_⟩
    have hcol : ¬ a.col < b.col := fun hc => h (Or.inr ⟨heq, hc⟩)
    refine UInt32.lt_of_le_of_ne (UInt32.not_lt.1 hcol) fun hc => hne ?_
    cases a
    cases b
    simp_all
  · exact Or.inl (UInt32.lt_of_le_of_ne (UInt32.not_lt.1 hrow) (Ne.symm heq))

end Address

end MarkedSheet
