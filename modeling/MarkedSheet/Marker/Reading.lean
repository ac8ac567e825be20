import MarkedSheet.Marker.PlainField
import MarkedSheet.Marker.Segment
import MarkedSheet.Registry.Basic
import MarkedSheet.Text.Blank

/-!
# Markers of a cell

A marker says by the text between its brackets what it stands for: `#code` is an entry of the
registry, `*name` refers to an earlier report, and anything else is a plain field, an unknown code
included.  Only plain fields own the text after their closing bracket.  Brackets left open and
markers without a name are issues; the markers around them are still read.
-/

namespace MarkedSheet

/-- What a marker stands for. -/
inductive MarkerForm where
  | registered (entry : Entry)
  | reference (name : String)
  | plain (field : PlainField)
  deriving DecidableEq, Repr

/-- A marker and the part of the cell that its value replaces. -/
structure Marker where
  form : MarkerForm
  span : Span
  deriving DecidableEq, Repr

/-- What is wrong in the text of a cell. -/
inductive Issue where
  | unclosed (span : Span)
  | unnamed (span : Span)
  | unknownCode (code : String) (span : Span)
  deriving DecidableEq, Repr

/-- The markers and the issues of a cell. -/
structure Reading where
  markers : List Marker
  issues : List Issue
  deriving DecidableEq, Repr

def unclosedMessage : String :=
  "Unclosed marker"

/-- The wording for a bracket left open, with its place in the cell. -/
def unclosedText (span : Span) : String :=
  "Parse error at " ++ toString span.start ++ ".." ++ toString span.stop ++ ": " ++
    unclosedMessage

namespace MarkerForm

/-- What a marker stands for whose trimmed content is `content`, followed by `tail`; nothing when
there is no name. -/
def ofContent? (r : Registry) (content tail : List Char) : Option MarkerForm :=
  let name := String.ofList content
  match content with
  | [] => none
  | '#' :: _ =>
      match r.lookup name with
      | some entry => some (registered entry)
      | none => some (plain (PlainField.read name tail))
  | '*' :: rest => (Text.trimmed? rest).map reference
  | _ => some (plain (PlainField.read name tail))

/-- The code of a plain field that was written as a code. -/
def unknownCode? : MarkerForm → Option String
  | plain field => if field.name.toList.head? = some '#' then some field.name else none
  | _ => none

/-- Whether the marker owns the text after its closing bracket. -/
def ownsTail : MarkerForm → Bool
  | plain _ => true
  | _ => false

end MarkerForm

namespace Segment

/-- What the marker of a segment stands for. -/
def form? (r : Registry) : Segment → Option MarkerForm
  | closed content tail => MarkerForm.ofContent? r (Text.trim content) tail
  | unclosed _ => none

/-- The span from the opening bracket at `start` to the closing one, or of the whole segment. -/
def ownSpan (start : Nat) (whole : Bool) : Segment → Span
  | closed content tail =>
      if whole then (closed content tail).span start
      else ⟨start, start + 2 + Text.width content⟩
  | unclosed content => (unclosed content).span start

/-- The marker of a segment that begins at `start`. -/
def marker? (r : Registry) (start : Nat) (s : Segment) : Option Marker :=
  (s.form? r).map fun form => ⟨form, s.ownSpan start form.ownsTail⟩

/-- The issue of a segment with both brackets that begins at `start`. -/
def issue? (r : Registry) (start : Nat) (s : Segment) : Option Issue :=
  match s with
  | unclosed _ => none
  | closed _ _ =>
      match s.form? r with
      | none => some (.unnamed (s.ownSpan start false))
      | some form =>
          form.unknownCode?.map fun code => .unknownCode code (s.ownSpan start form.ownsTail)

end Segment

namespace Reading

/-- The markers and issues of a cell; brackets left open come first among the issues. -/
def ofText (r : Registry) (text : List Char) : Reading where
  markers := (CellText.read text).located.filterMap fun p => p.2.marker? r p.1
  issues :=
    (CellText.read text).unclosed.map Issue.unclosed ++
      (CellText.read text).located.filterMap fun p => p.2.issue? r p.1

end Reading

end MarkedSheet
