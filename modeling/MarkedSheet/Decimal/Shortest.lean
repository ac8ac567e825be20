import MarkedSheet.Decimal.Binary64

/-!
# Shortest decimal texts

A double is written with the fewest digits that read back as the same double, and with the nearest
such number when there are several, the larger one if two are equally near.  The digits are found on
the coarsest decimal grid that has a point among the numbers that round to the double.  They are
written positionally, without an exponent, however large or small the number is.
-/

namespace MarkedSheet

namespace Decimal

/-- The natural number `coefficient` times a power of ten. -/
structure Scaled where
  coefficient : Nat
  power : Int
  deriving DecidableEq, Repr

/-- The numbers that round to one double, as multiples of a common unit: its own value and the two
ends, which belong to it when `closed`. -/
structure Basin where
  low : Nat
  value : Nat
  high : Nat
  closed : Bool

/-- The basin of `significand * 2 ^ exponent`, in units of `2 ^ (exponent - 2)`. -/
def Basin.of (significand : Nat) (exponent : Int) : Basin where
  low := 4 * significand - (if significand = Nat.pow 2 52 ∧ -1074 < exponent then 1 else 2)
  value := 4 * significand
  high := 4 * significand + 2
  closed := significand % 2 = 0

/-- Whether the point `d * den` of a grid lies in the basin scaled by `num`. -/
def Basin.contains (b : Basin) (num den d : Nat) : Bool :=
  if b.closed then
    b.low * num ≤ d * den && d * den ≤ b.high * num
  else
    b.low * num < d * den && d * den < b.high * num

/-- The point of the grid with spacing `10 ^ power` that lies in the basin, nearest to the value and
the upper one of two; the unit of the basin is `2 ^ unit`. -/
def Basin.pointOn? (b : Basin) (unit power : Int) : Option Nat :=
  -- In units of the grid the value is `b.value * num / den`.
  let num := Nat.pow 2 unit.toNat * Nat.pow 10 (-power).toNat
  let den := Nat.pow 2 (-unit).toNat * Nat.pow 10 power.toNat
  let below := b.value * num / den
  let rest := b.value * num % den
  match b.contains num den below, b.contains num den (below + 1) with
  | true, true => some (if 2 * rest < den then below else below + 1)
  | true, false => some below
  | false, true => some (below + 1)
  | false, false => none

/-- The first grid, from spacing `10 ^ power` on to finer ones, with a point in the basin. -/
def Basin.coarsest (b : Basin) (unit : Int) : Nat → Int → Scaled
  | 0, power => ⟨0, power⟩
  | tries + 1, power =>
      match b.pointOn? unit power with
      | some d => ⟨d, power⟩
      | none => b.coarsest unit tries (power - 1)

/-- The shortest decimal that reads back as `significand * 2 ^ exponent`, which is not zero.  The
search starts above the number's leading digit and seventeen digits are always enough. -/
def shortest (significand : Nat) (exponent : Int) : Scaled :=
  let order : Int := ((significand.log2 : Int) + exponent) * 30103 / 100000
  (Basin.of significand exponent).coarsest (exponent - 2) 24 (order + 2)

/-- The number written without an exponent, with the least number of zeros. -/
def Scaled.positional (s : Scaled) : List Char :=
  let ds := digits s.coefficient
  if 0 ≤ s.power then
    ds ++ List.replicate s.power.toNat '0'
  else
    let places := (-s.power).toNat
    if places < ds.length then
      ds.take (ds.length - places) ++ '.' :: ds.drop (ds.length - places)
    else
      '0' :: '.' :: (List.replicate (places - ds.length) '0' ++ ds)

def Scaled.isWhole (s : Scaled) : Bool :=
  0 ≤ s.power

end Decimal

namespace Binary64

/-- The sign of a double as written. -/
def signChars (x : Binary64) : List Char :=
  if x.isNegative then ['-'] else []

/-- The text of a double: its shortest decimal, `inf` or `NaN`; a zero keeps its sign. -/
def text (x : Binary64) : String :=
  match x.magnitude with
  | .nan => "NaN"
  | .infinite => String.ofList (x.signChars ++ ['i', 'n', 'f'])
  | .finite 0 _ => String.ofList (x.signChars ++ ['0'])
  | .finite m e => String.ofList (x.signChars ++ (Decimal.shortest m e).positional)

/-- The text of a double with at least one decimal place when it is finite. -/
def textWithPlaces (x : Binary64) : String :=
  match x.magnitude with
  | .finite 0 _ => x.text ++ ".0"
  | .finite m e => if (Decimal.shortest m e).isWhole then x.text ++ ".0" else x.text
  | _ => x.text

end Binary64

end MarkedSheet
