import MarkedSheet.Calendar.Date
import MarkedSheet.Decimal.Digits

/-!
# Date patterns

A pattern writes a date: `%` and a letter stand for a part of the date, everything else for itself.
Between the two, `-`, `_` or `0` choose how a single number is padded.  A pattern that asks for a
time of day, a time zone or an unknown part writes nothing at all.
-/

namespace MarkedSheet

/-- How a number is filled up to its width. -/
inductive Padding where
  | none
  | space
  | zero
  deriving DecidableEq, Repr

/-- The numbers of a date that a pattern can ask for. -/
inductive DateNumber where
  | year
  | century
  | yearOfCentury
  | isoYear
  | isoYearOfCentury
  | quarter
  | month
  | day
  | ordinal
  | weekFromSunday
  | weekFromMonday
  | isoWeek
  | daysFromSunday
  | weekdayFromMonday
  deriving DecidableEq, Repr

/-- The names of a date that a pattern can ask for. -/
inductive DateName where
  | shortMonth
  | longMonth
  | shortWeekday
  | longWeekday
  deriving DecidableEq, Repr

/-- One element of a pattern. -/
inductive PatternItem where
  | literal (c : Char)
  | number (n : DateNumber) (padding : Padding)
  | name (n : DateName)
  deriving DecidableEq, Repr

namespace DateNumber

def value (d : Date) : DateNumber → Int
  | year => d.year
  | century => d.year / 100
  | yearOfCentury => d.year % 100
  | isoYear => d.isoWeek.1
  | isoYearOfCentury => d.isoWeek.1 % 100
  | quarter => d.quarter
  | month => d.month
  | day => d.day
  | ordinal => d.ordinal
  | weekFromSunday => d.weekFromSunday
  | weekFromMonday => d.weekFromMonday
  | isoWeek => d.isoWeek.2
  | daysFromSunday => d.weekdayFromSunday
  | weekdayFromMonday => d.weekday + 1

/-- The number of digits that a number is filled up to. -/
def width : DateNumber → Nat
  | year | isoYear => 4
  | ordinal => 3
  | quarter | daysFromSunday | weekdayFromMonday => 1
  | _ => 2

/-- A number with its padding; a number below zero or above 9999 always carries its sign, which
the zeros follow and the spaces precede. -/
def write (d : Date) (padding : Padding) (n : DateNumber) : List Char :=
  let v := n.value d
  if 0 ≤ v ∧ v < 10000 then
    match padding with
    | .none => Decimal.digits v.toNat
    | .space => Decimal.padded ' ' n.width v.toNat
    | .zero => Decimal.padded '0' n.width v.toNat
  else
    let sign := if v < 0 then '-' else '+'
    let ds := Decimal.digits v.natAbs
    match padding with
    | .none => sign :: ds
    | .space => List.replicate (n.width - ds.length) ' ' ++ sign :: ds
    | .zero => sign :: Decimal.padded '0' n.width v.natAbs

end DateNumber

namespace DateName

def months : List String :=
  ["January", "February", "March", "April", "May", "June", "July", "August", "September",
   "October", "November", "December"]

/-- The English names of the days of the week, from Monday on. -/
def weekdays : List String :=
  ["Monday", "Tuesday", "Wednesday", "Thursday", "Friday", "Saturday", "Sunday"]

def nameAt (names : List String) (i : Nat) : List Char :=
  (names[i]?.getD "").toList

/-- A name in its long form or cut to three letters. -/
def write (d : Date) : DateName → List Char
  | shortMonth => (nameAt months (d.month - 1)).take 3
  | longMonth => nameAt months (d.month - 1)
  | shortWeekday => (nameAt weekdays d.weekday).take 3
  | longWeekday => nameAt weekdays d.weekday

end DateName

namespace PatternItem

def write (d : Date) : PatternItem → List Char
  | literal c => [c]
  | number n padding => n.write d padding
  | name n => n.write d

def plain (n : DateNumber) : PatternItem :=
  number n .zero

/-- The elements that a letter after `%` stands for. -/
def ofLetter? : Char → Option (List PatternItem)
  | 'Y' => some [plain .year]
  | 'C' => some [plain .century]
  | 'y' => some [plain .yearOfCentury]
  | 'G' => some [plain .isoYear]
  | 'g' => some [plain .isoYearOfCentury]
  | 'q' => some [plain .quarter]
  | 'm' => some [plain .month]
  | 'd' => some [plain .day]
  | 'e' => some [number .day .space]
  | 'j' => some [plain .ordinal]
  | 'U' => some [plain .weekFromSunday]
  | 'W' => some [plain .weekFromMonday]
  | 'V' => some [plain .isoWeek]
  | 'w' => some [plain .daysFromSunday]
  | 'u' => some [plain .weekdayFromMonday]
  | 'b' => some [name .shortMonth]
  | 'h' => some [name .shortMonth]
  | 'B' => some [name .longMonth]
  | 'a' => some [name .shortWeekday]
  | 'A' => some [name .longWeekday]
  | 'D' => some [plain .month, literal '/', plain .day, literal '/', plain .yearOfCentury]
  | 'x' => some [plain .month, literal '/', plain .day, literal '/', plain .yearOfCentury]
  | 'F' => some [plain .year, literal '-', plain .month, literal '-', plain .day]
  | 'v' =>
      some [number .day .space, literal '-', name .shortMonth, literal '-', plain .year]
  | 'n' => some [literal '\n']
  | 't' => some [literal '\t']
  | '%' => some [literal '%']
  | _ => none

/-- The padding that a character between `%` and the letter chooses. -/
def padding? : Char → Option Padding
  | '-' => some .none
  | '_' => some .space
  | '0' => some .zero
  | _ => none

/-- The number that a letter stands for, with another padding. -/
def ofPaddedLetter? (padding : Padding) (letter : Char) : Option (List PatternItem) :=
  match ofLetter? letter with
  | some [number n _] => some [number n padding]
  | _ => none

end PatternItem

/-- A pattern that can be written for every date. -/
abbrev Pattern := List PatternItem

namespace Pattern

/-- Read a pattern; nothing when some element of it is none of a date. -/
def parse? : List Char → Option Pattern
  | [] => some []
  | ['%'] => none
  | '%' :: c :: rest =>
      match PatternItem.padding? c, rest with
      | some padding, letter :: rest =>
          (PatternItem.ofPaddedLetter? padding letter).bind fun items =>
            (parse? rest).map (items ++ ·)
      | some _, [] => none
      | none, rest =>
          (PatternItem.ofLetter? c).bind fun items => (parse? rest).map (items ++ ·)
  | c :: rest => (parse? rest).map (.literal c :: ·)

/-- A date as the pattern writes it. -/
def write (p : Pattern) (d : Date) : List Char :=
  p.flatMap (PatternItem.write d)

end Pattern

end MarkedSheet
