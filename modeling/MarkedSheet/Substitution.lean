import MarkedSheet.Text.Bytes
import MarkedSheet.Value

/-!
# Substitution in a cell

The values of a cell's markers replace their spans in one pass from left to right, so that a value
that looks like a marker is never read again.  A cell that holds nothing but one marker takes its
value unchanged, number or text.  A span that starts before the end of the one before, or that ends
past the text, is left out.  A span that cuts through a character cannot be replaced at all.
-/

namespace MarkedSheet

/-- A value and the span that it replaces. -/
structure Replacement where
  span : Span
  value : Value
  deriving DecidableEq, Repr

namespace Substitution

/-- Whether only blank characters stand outside a span; a side that cannot be cut off is blank. -/
def isAlone (text : List Char) (span : Span) : Bool :=
  Text.allBlank ((Text.before? span.start text).getD []) &&
    Text.allBlank ((Text.after? span.stop text).getD [])

/-- The text from `cursor` on with the spans replaced. -/
def substituteFrom? (text : List Char) (cursor : Nat) :
    List Replacement → Option (List Char)
  | [] => Text.after? cursor text
  | r :: rest =>
      -- Overlapping spans and spans past the end are passed over.
      if r.span.start < cursor ∨ Text.width text < r.span.stop then
        substituteFrom? text cursor rest
      else
        (Text.slice? cursor r.span.start text).bind fun between =>
          (substituteFrom? text r.span.stop rest).map fun after =>
            between ++ (r.value.display.toList ++ after)

def substitute? (text : List Char) (replacements : List Replacement) : Option Value :=
  (substituteFrom? text 0 replacements).map fun cs => .text (String.ofList cs)

/-- The value of a cell with the given text. -/
def compose? (text : List Char) (replacements : List Replacement) : Option Value :=
  match replacements with
  | [r] => if isAlone text r.span then some r.value else substitute? text [r]
  | _ => substitute? text replacements

end Substitution

end MarkedSheet
