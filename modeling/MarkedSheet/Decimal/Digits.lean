/-!
# Decimal digits

Natural numbers written and read in the ten digits `0` to `9`.
-/

namespace MarkedSheet.Decimal

/-- The digits of a number, without leading zeros. -/
def digits (n : Nat) : List Char :=
  Nat.toDigits 10 n

def digitValue (c : Char) : Nat :=
  c.toNat - '0'.toNat

/-- The number whose digits are `seen` followed by these. -/
def valueFrom (seen : Nat) : List Char → Nat
  | [] => seen
  | c :: rest => valueFrom (10 * seen + digitValue c) rest

/-- The number written in a nonempty text of digits; leading zeros are allowed. -/
def value? (cs : List Char) : Option Nat :=
  if cs ≠ [] ∧ cs.all Char.isDigit then some (valueFrom 0 cs) else none

/-- The digits of a number, filled up on the left to a width. -/
def padded (fill : Char) (width n : Nat) : List Char :=
  List.replicate (width - (digits n).length) fill ++ digits n

end MarkedSheet.Decimal
