import MarkedSheet.Marker.Reading
import MarkedSheet.Plan
import MarkedSheet.Template
import MarkedSheet.Text.Quoted

/-!
# Compilation of a template

The markers of all cells, page by page and in the order of addresses, become the field map of the
template.  Only cells that hold both brackets are read.  Compilation never fails; what cannot be
read is reported.
-/

namespace MarkedSheet

/-- The field map of a template with its plans and all that was reported. -/
structure Compilation where
  fieldMap : FieldMap
  plans : List PagePlan
  diagnostics : List Diagnostic
  deriving DecidableEq, Repr

namespace Marker

/-- The kind of field behind a registered code. -/
def kindOf : EntryKind → FieldKind
  | .basic => .basic
  | .column _ => .detectionColumn
  | .control _ => .controlMark

/-- The type that the canonical name of a field suggests, or else its display name. -/
def typeOf (canonicalName displayName : String) : FieldType :=
  match FieldType.infer canonicalName with
  | .text => FieldType.infer displayName
  | inferred => inferred

/-- A marker bound to a cell with the given text. -/
def describe (page : String) (cell : Address) (text : String) (m : Marker) : Descriptor :=
  match m.form with
  | .registered e =>
      { page, cell, kind := kindOf e.kind
        canonicalName := e.canonicalName, displayName := e.displayName
        default? := none, hint? := none, required := false, editable := false
        role? := e.role?, control? := e.control?
        fieldType := typeOf e.canonicalName e.displayName
        code? := some e.code, cellText := text, span := m.span }
  | .reference name =>
      { page, cell, kind := .reference, canonicalName := name, displayName := name
        default? := none
        hint? := some ("copied from the latest approved report: " ++ name)
        required := false, editable := false, role? := none, control? := none
        fieldType := typeOf name name, code? := none, cellText := text, span := m.span }
  | .plain f =>
      { page, cell, kind := .basic, canonicalName := f.name, displayName := f.name
        default? := f.default?, hint? := f.hint?, required := f.required, editable := true
        role? := none, control? := none
        fieldType := typeOf f.name f.name, code? := none, cellText := text, span := m.span }

end Marker

namespace Issue

/-- The part of a text that a span covers, between quotes. -/
def quotedPart (text : String) (span : Span) : String :=
  Text.quoted ((Text.slice? span.start span.stop text.toList).getD [])

def diagnostic (page : String) (cell : Address) (text : String) : Issue → Diagnostic
  | unclosed span =>
      .located .malformedCell page cell
        ("marker " ++ quotedPart text span ++ " skipped: " ++ unclosedText span)
  | unnamed span =>
      .located .emptyMarker page cell ("marker " ++ quotedPart text span ++ " has no field name")
  | unknownCode code _ =>
      .located .unknownCode page cell
        ("unknown field code '" ++ code ++ "' treated as a plain field")

end Issue

/-- The fields and the reports of a cell or of several. -/
structure Scan where
  descriptors : List Descriptor
  diagnostics : List Diagnostic

namespace Template

/-- Whether a text holds both brackets. -/
def isCandidate (text : String) : Bool :=
  text.toList.contains '[' && text.toList.contains ']'

def scanCell (r : Registry) (page : String) (cell : Address) (text : String) : Scan :=
  if isCandidate text then
    let reading := Reading.ofText r text.toList
    ⟨reading.markers.map (Marker.describe page cell text),
      reading.issues.map (Issue.diagnostic page cell text)⟩
  else
    ⟨[], []⟩

/-- The fields and reports of each filled cell, in order. -/
def scans (r : Registry) (t : Template) : List Scan :=
  t.pages.flatMap fun p => p.cells.entries.map fun e => scanCell r p.id e.1 e.2

def noMarkers (t : Template) : Diagnostic :=
  .general .noMarkers ("template '" ++ t.id ++ "' contains no recognized markers")

def fieldMap (r : Registry) (t : Template) : FieldMap :=
  let descriptors := (t.scans r).flatMap Scan.descriptors
  let found := (t.scans r).flatMap Scan.diagnostics
  { template := t.id
    descriptors := descriptors
    issues := if descriptors.isEmpty then found ++ [t.noMarkers] else found }

/-- The field map of a template with its plans; the reports about plans come last. -/
def compile (r : Registry) (t : Template) : Compilation :=
  let m := t.fieldMap r
  ⟨m, m.plans, m.issues ++ m.planDiagnostics⟩

end Template

end MarkedSheet
