import MarkedSheet.Calendar.Pattern
import MarkedSheet.Text.Blank

/-!
# Numeric dates

A numeric date is a year of four digits, followed by a month and a day of one or two digits, each
after a separator, or by two digits for each without separators.  A time may follow after a space
or a `T`; it is dropped.  Any other text, and a day that the calendar does not have, is left as
it is.
-/

namespace MarkedSheet.NumericDate

def isSeparator (c : Char) : Bool :=
  c = '-' || c = '/' || c = '.'

/-- A number of one or two digits and what follows it. -/
def shortNumber? : List Char → Option (Nat × List Char)
  | [] => none
  | a :: rest =>
      if a.isDigit then
        match rest with
        | b :: rest' =>
            if b.isDigit then some (Decimal.valueFrom 0 [a, b], rest')
            else some (Decimal.digitValue a, rest)
        | [] => some (Decimal.digitValue a, [])
      else none

/-- A separator, a number and what follows them. -/
def separated? : List Char → Option (Nat × List Char)
  | [] => none
  | c :: rest => if isSeparator c then shortNumber? rest else none

/-- Month and day with separators, and what follows them. -/
def spaced? (cs : List Char) : Option (Nat × Nat × List Char) :=
  (separated? cs).bind fun m =>
    (separated? m.2).map fun d => (m.1, d.1, d.2)

/-- Month and day of two digits each, and what follows them. -/
def compact? : List Char → Option (Nat × Nat × List Char)
  | a :: b :: c :: d :: rest =>
      if [a, b, c, d].all Char.isDigit then
        some (Decimal.valueFrom 0 [a, b], Decimal.valueFrom 0 [c, d], rest)
      else none
  | _ => none

/-- Whether the text after a date is nothing, or a time on the same line. -/
def isTime : List Char → Bool
  | [] => true
  | c :: rest => (c = ' ' || c = 'T') && !rest.contains '\n'

/-- The day that a numeric date names. -/
def read? (cs : List Char) : Option Date :=
  let year := cs.take 4
  if year.length = 4 ∧ year.all Char.isDigit then
    match (spaced? (cs.drop 4)).orElse fun _ => compact? (cs.drop 4) with
    | some (month, day, rest) =>
        if isTime rest then Date.ofParts? (Decimal.valueFrom 0 year) month day else none
    | none => none
  else none

/-- Whether a text is already in the long form with the characters for year and month. -/
def isLong (cs : List Char) : Bool :=
  cs.contains '年' && cs.contains '月'

/-- The text as the pattern writes the date that it names, or else the text itself. -/
def longForm (text pattern : String) : String :=
  let cs := Text.trim text.toList
  if isLong cs then text
  else
    match read? cs, Pattern.parse? pattern.toList with
    | some d, some p => String.ofList (p.write d)
    | _, _ => text

end MarkedSheet.NumericDate
