import MarkedSheet.Calendar.Date
import MarkedSheet.Toml.Item

/-!
# Numbers, truth values and dates

The values of a document that are written as one word.  Digits may be grouped by single
underscores.  Whole numbers have 64 bits.  A number too large for a double is refused unless it is
negative, which gives negative infinity.
-/

namespace MarkedSheet.Toml

/-- The characters of words: nothing else can stand in a number, a date or a truth value. -/
def isWordChar (c : Char) : Bool :=
  c.isAlphanum || c = '_' || c = '+' || c = '-' || c = '.' || c = ':'

/-- The digits of a nonempty text without the underscores between them. -/
def ungroup? (isDigit : Char → Bool) : List Char → Option (List Char)
  | [] => none
  | [c] => if isDigit c then some [c] else none
  | c :: '_' :: rest => if isDigit c then (ungroup? isDigit rest).map (c :: ·) else none
  | c :: rest => if isDigit c then (ungroup? isDigit rest).map (c :: ·) else none

/-- Decimal digits that do not start with a superfluous zero. -/
def wholeDigits? (cs : List Char) : Option (List Char) :=
  match ungroup? Char.isDigit cs with
  | some ['0'] => some ['0']
  | some ('0' :: _) => none
  | digits => digits

/-- Whether a character is a digit of a base up to sixteen. -/
def isDigitOf (base : Nat) (c : Char) : Bool :=
  if c.isDigit then Decimal.digitValue c < base
  else base = 16 && 'a'.toNat ≤ c.toLower.toNat && c.toLower.toNat ≤ 'f'.toNat

/-- The value of a digit. -/
def digitOf (c : Char) : Nat :=
  if c.isDigit then Decimal.digitValue c else c.toLower.toNat - 'a'.toNat + 10

def numberIn (base : Nat) (cs : List Char) : Nat :=
  cs.foldl (fun n c => base * n + digitOf c) 0

/-- A whole number of 64 bits. -/
def word64? (n : Int) : Option Int :=
  if -(Nat.pow 2 63 : Int) ≤ n ∧ n < Nat.pow 2 63 then some n else none

/-- The whole number that a word writes. -/
def integer? : List Char → Option Int
  | '0' :: 'x' :: rest =>
      (ungroup? (isDigitOf 16) rest).bind fun ds => word64? (numberIn 16 ds)
  | '0' :: 'o' :: rest =>
      (ungroup? (isDigitOf 8) rest).bind fun ds => word64? (numberIn 8 ds)
  | '0' :: 'b' :: rest =>
      (ungroup? (isDigitOf 2) rest).bind fun ds => word64? (numberIn 2 ds)
  | '+' :: rest => (wholeDigits? rest).bind fun ds => word64? (numberIn 10 ds)
  | '-' :: rest => (wholeDigits? rest).bind fun ds => word64? (-(numberIn 10 ds : Int))
  | cs => (wholeDigits? cs).bind fun ds => word64? (numberIn 10 ds)

/-- The exponent that a word writes after the letter `e`. -/
def exponent? : List Char → Option Int
  | '+' :: rest => (ungroup? Char.isDigit rest).map fun ds => (numberIn 10 ds : Int)
  | '-' :: rest => (ungroup? Char.isDigit rest).map fun ds => -(numberIn 10 ds : Int)
  | cs => (ungroup? Char.isDigit cs).map fun ds => (numberIn 10 ds : Int)

def isExponentMark (c : Char) : Bool :=
  c = 'e' || c = 'E'

/-- The decimal places after a point, and the exponent, in the text after the whole part. -/
def fraction? : List Char → Option (List Char × Int)
  | '.' :: rest =>
      let places := rest.takeWhile fun c => !isExponentMark c
      match rest.dropWhile fun c => !isExponentMark c with
      | [] => (ungroup? Char.isDigit places).map fun ds => (ds, 0)
      | _ :: power =>
          (ungroup? Char.isDigit places).bind fun ds => (exponent? power).map fun e => (ds, e)
  | c :: power => if isExponentMark c then (exponent? power).map fun e => ([], e) else none
  | [] => none

/-- The double that a word without a sign writes as a number with a point or an exponent. -/
def numeral? (negative : Bool) (cs : List Char) : Option Binary64 :=
  let isWholePart := fun c : Char => c.isDigit || c = '_'
  (wholeDigits? (cs.takeWhile isWholePart)).bind fun whole =>
    (fraction? (cs.dropWhile isWholePart)).map fun f =>
      Binary64.ofDecimal negative (numberIn 10 (whole ++ f.1)) (f.2 - (f.1.length : Int))

/-- The double that a word without a sign writes. -/
def magnitude? (negative : Bool) (cs : List Char) : Option Binary64 :=
  if cs = ['i', 'n', 'f'] then some (Binary64.infinity negative)
  else if cs = ['n', 'a', 'n'] then some Binary64.nan
  else (numeral? negative cs).filter fun x => x ≠ Binary64.infinity false

/-- The double that a word writes. -/
def float? : List Char → Option Binary64
  | '+' :: rest => magnitude? false rest
  | '-' :: rest => magnitude? true rest
  | cs => magnitude? false cs

/-- A number of two digits that is at most `largest`. -/
def twoDigits? (largest : Nat) (a b : Char) : Option Nat :=
  if a.isDigit && b.isDigit && Decimal.valueFrom 0 [a, b] ≤ largest then
    some (Decimal.valueFrom 0 [a, b])
  else none

/-- Whether the text is a day of the calendar, as in `1979-05-27`. -/
def isDate : List Char → Bool
  | [a, b, c, d, '-', e, f, '-', g, h] =>
      [a, b, c, d, e, f, g, h].all Char.isDigit &&
        (Date.ofParts? (Decimal.valueFrom 0 [a, b, c, d]) (Decimal.valueFrom 0 [e, f])
          (Decimal.valueFrom 0 [g, h])).isSome
  | _ => false

/-- The fraction of a second after its point: nine digits are kept, without zeros at the end. -/
def secondFraction (digits : List Char) : List Char :=
  let kept := ((digits.take 9).reverse.dropWhile fun c => c = '0').reverse
  if kept.isEmpty then [] else '.' :: kept

/-- The difference from universal time, as it is written back. -/
def offset? : List Char → Option (List Char)
  | ['Z'] => some ['Z']
  | ['z'] => some ['Z']
  | [sign, a, b, ':', c, d] =>
      if sign = '+' ∨ sign = '-' then
        match twoDigits? 23 a b, twoDigits? 59 c d with
        | some 0, some 0 => some ['+', a, b, ':', c, d]
        | some _, some _ => some [sign, a, b, ':', c, d]
        | _, _ => none
      else none
  | _ => none

/-- A time of day and the text after it, as they are written back. -/
def time? : List Char → Option (List Char × List Char)
  | a :: b :: ':' :: c :: d :: ':' :: e :: f :: rest =>
      match twoDigits? 23 a b, twoDigits? 59 c d, twoDigits? 60 e f with
      | some _, some _, some _ =>
          match rest with
          | '.' :: tail =>
              let digits := tail.takeWhile Char.isDigit
              if digits.isEmpty then none
              else
                some ([a, b, ':', c, d, ':', e, f] ++ secondFraction digits,
                  tail.dropWhile Char.isDigit)
          | _ => some ([a, b, ':', c, d, ':', e, f], rest)
      | _, _, _ => none
  | _ => none

/-- The text of the date or time that a word writes; a space may stand between date and time. -/
def datetime? (cs : List Char) : Option String :=
  let day := cs.take 10
  if isDate day then
    match cs.drop 10 with
    | [] => some (String.ofList day)
    | mark :: rest =>
        if mark = 'T' ∨ mark = 't' ∨ mark = ' ' then
          match time? rest with
          | some (time, []) => some (String.ofList (day ++ 'T' :: time))
          | some (time, zone) =>
              (offset? zone).map fun o => String.ofList (day ++ 'T' :: (time ++ o))
          | none => none
        else none
  else
    match time? cs with
    | some (time, []) => some (String.ofList time)
    | _ => none

/-- The item that a word writes. -/
def scalar? (cs : List Char) : Option Item :=
  if cs = ['t', 'r', 'u', 'e'] then some (.boolean true)
  else if cs = ['f', 'a', 'l', 's', 'e'] then some (.boolean false)
  else
    match datetime? cs, float? cs, integer? cs with
    | some text, _, _ => some (.datetime text)
    | none, some x, _ => some (.float x)
    | none, none, some n => some (.integer n)
    | none, none, none => none

end MarkedSheet.Toml
