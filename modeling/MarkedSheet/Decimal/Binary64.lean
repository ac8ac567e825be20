import MarkedSheet.Decimal.Digits

/-!
# Floating-point numbers

Floating-point numbers are the doubles of IEEE 754, given by their 64 bits.  A ratio of natural
numbers is rounded to the nearest double, and to the one with the even significand when two are
equally near.
-/

namespace MarkedSheet

/-- A double, as its sign bit, eleven bits of exponent and 52 bits of fraction. -/
structure Binary64 where
  bits : UInt64
  deriving DecidableEq, Repr

namespace Binary64

/-- What a double stands for, apart from its sign: `significand * 2 ^ exponent` when finite. -/
inductive Magnitude where
  | nan
  | infinite
  | finite (significand : Nat) (exponent : Int)
  deriving DecidableEq, Repr

def isNegative (x : Binary64) : Bool :=
  Nat.pow 2 63 ≤ x.bits.toNat

def magnitude (x : Binary64) : Magnitude :=
  let fraction : Nat := x.bits.toNat % Nat.pow 2 52
  let field : Nat := x.bits.toNat / Nat.pow 2 52 % Nat.pow 2 11
  if field = 2047 then
    if fraction = 0 then .infinite else .nan
  else if field = 0 then
    .finite fraction (-1074)
  else
    .finite (Nat.pow 2 52 + fraction) ((field : Int) - 1075)

/-- The double with a sign and the bits below it. -/
def ofBits (negative : Bool) (below : Nat) : Binary64 :=
  ⟨UInt64.ofNat ((if negative then Nat.pow 2 63 else 0) + below)⟩

/-- The number that is not a number, without a sign. -/
def nan : Binary64 :=
  ofBits false (2047 * Nat.pow 2 52 + Nat.pow 2 51)

def infinity (negative : Bool) : Binary64 :=
  ofBits negative (2047 * Nat.pow 2 52)

def zero (negative : Bool) : Binary64 :=
  ofBits negative 0

/-- The quotient rounded to the nearest natural number, a half going to the even neighbour. -/
def roundedQuotient (num den : Nat) : Nat :=
  let q := num / den
  let twice := 2 * (num % den)
  if den < twice ∨ (twice = den ∧ q % 2 = 1) then q + 1 else q

/-- The double nearest to `num / den`, for a positive `den`. -/
def ofRatio (negative : Bool) (num den : Nat) : Binary64 :=
  if num = 0 then
    zero negative
  else
    -- The guess is the binary order of the ratio or one too large.
    let guess : Int := (num.log2 : Int) - (den.log2 : Int)
    let order : Int :=
      if den * Nat.pow 2 guess.toNat ≤ num * Nat.pow 2 (-guess).toNat then guess else guess - 1
    let exponent : Int := max (order - 52) (-1074)
    let significand :=
      roundedQuotient (num * Nat.pow 2 (-exponent).toNat) (den * Nat.pow 2 exponent.toNat)
    -- A significand that was rounded up to the next power of two carries into the exponent.
    let below := (exponent + 1074).toNat * Nat.pow 2 52 + significand
    if 2047 * Nat.pow 2 52 ≤ below then infinity negative else ofBits negative below

/-- The double nearest to `coefficient * 10 ^ power`. -/
def ofDecimal (negative : Bool) (coefficient : Nat) (power : Int) : Binary64 :=
  let order : Int := ((Decimal.digits coefficient).length : Int) + power
  if coefficient = 0 ∨ order < -330 then zero negative
  else if 310 < order then infinity negative
  else ofRatio negative (coefficient * Nat.pow 10 power.toNat) (Nat.pow 10 (-power).toNat)

/-- The digits before the decimal point, those after it and the exponent of a numeral. -/
structure Numeral where
  whole : List Char
  fraction : List Char
  power : Int

/-- The exponent after the letter `e`, with an optional sign. -/
def exponent? : List Char → Option Int
  | '+' :: rest => (Decimal.value? rest).map Int.ofNat
  | '-' :: rest => (Decimal.value? rest).map fun n => -(n : Int)
  | cs => (Decimal.value? cs).map Int.ofNat

/-- The parts of an unsigned numeral; a part that is absent is empty. -/
def numeral? (cs : List Char) : Option Numeral :=
  let isExponentMark := fun c => c = 'e' || c = 'E'
  let whole := cs.takeWhile Char.isDigit
  let afterWhole := cs.dropWhile Char.isDigit
  let fractionPart := match afterWhole with
    | '.' :: rest => (rest.takeWhile Char.isDigit, rest.dropWhile Char.isDigit)
    | rest => ([], rest)
  if whole.isEmpty && fractionPart.1.isEmpty then
    none
  else
    match fractionPart.2 with
    | [] => some ⟨whole, fractionPart.1, 0⟩
    | c :: rest =>
        if isExponentMark c then
          (exponent? rest).map fun power => ⟨whole, fractionPart.1, power⟩
        else
          none

/-- The double nearest to what a numeral stands for. -/
def Numeral.round (negative : Bool) (n : Numeral) : Binary64 :=
  ofDecimal negative (Decimal.valueFrom 0 (n.whole ++ n.fraction))
    (n.power - (n.fraction.length : Int))

/-- The double written in a text without a sign; letters of either case are accepted. -/
def magnitudeOf? (negative : Bool) (cs : List Char) : Option Binary64 :=
  let lower := String.ofList (cs.map Char.toLower)
  if lower = "inf" ∨ lower = "infinity" then some (infinity negative)
  else if lower = "nan" then some nan
  else (numeral? cs).map (Numeral.round negative)

/-- The double written in a text: an optional sign and then a numeral, `inf` or `nan`. -/
def ofText? : List Char → Option Binary64
  | '+' :: rest => magnitudeOf? false rest
  | '-' :: rest => magnitudeOf? true rest
  | cs => magnitudeOf? false cs

end Binary64

end MarkedSheet
