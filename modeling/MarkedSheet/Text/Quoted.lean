import MarkedSheet.Text.Extender
import MarkedSheet.Text.Unprintable

/-!
# Quoted texts

A text inside a message stands between double quotes.  What would break the line or would not be
seen there is written as an escape: the quote and the backslash, controls, blank characters other
than the space, format characters and combining marks.
-/

namespace MarkedSheet.Text

/-- Whether a code point lies in one of the ascending ranges. -/
def inRanges (ranges : List (Nat × Nat)) (n : Nat) : Bool :=
  ranges.any fun r => r.1 ≤ n && n ≤ r.2

/-- Whether a character stands for itself between quotes. -/
def isPlainInQuotes (c : Char) : Bool :=
  if c.toNat < 0x7F then
    0x20 ≤ c.toNat
  else
    !(inRanges extenderRanges c.toNat || inRanges unprintableRanges c.toNat)

/-- One character between quotes. -/
def quotedChar (c : Char) : List Char :=
  if c = '"' then ['\\', '"']
  else if c = '\\' then ['\\', '\\']
  else if c = '\t' then ['\\', 't']
  else if c = '\r' then ['\\', 'r']
  else if c = '\n' then ['\\', 'n']
  else if c.toNat = 0 then ['\\', '0']
  else if isPlainInQuotes c then [c]
  else ['\\', 'u', '\x7b'] ++ Nat.toDigits 16 c.toNat ++ ['\x7d']

/-- The text between quotes. -/
def quoted (text : List Char) : String :=
  String.ofList ('"' :: (text.flatMap quotedChar ++ ['"']))

end MarkedSheet.Text
