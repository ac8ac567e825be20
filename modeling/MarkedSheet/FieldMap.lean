import MarkedSheet.Diagnostic
import MarkedSheet.Registry.Basic
import MarkedSheet.Text.Bytes
import MarkedSheet.Text.Search

/-!
# Field maps

A field map lists the markers found in a template, in the order of pages, cells and text, together
with the issues found on the way.  It is all that is needed to fill the template later on.
-/

namespace MarkedSheet

/-- How a field gets its value. -/
inductive FieldKind where
  | basic
  | reference
  | detectionColumn
  | controlMark
  deriving DecidableEq, Repr

namespace FieldKind

def all : List FieldKind :=
  [basic, reference, detectionColumn, controlMark]

def word : FieldKind → String
  | basic => "basic"
  | reference => "reference"
  | detectionColumn => "detection_column"
  | controlMark => "control_mark"

end FieldKind

/-- The kind of input that a field takes. -/
inductive FieldType where
  | text
  | date
  | dateTime
  | number
  | textArea
  deriving DecidableEq, Repr

namespace FieldType

def all : List FieldType :=
  [text, date, dateTime, number, textArea]

def word : FieldType → String
  | text => "text"
  | date => "date"
  | dateTime => "date_time"
  | number => "number"
  | textArea => "text_area"

/-- The name of a type in lists of form fields. -/
def label : FieldType → String
  | text => "Text"
  | date => "Date"
  | dateTime => "DateTime"
  | number => "Number"
  | textArea => "TextArea"

/-- The type that a field name suggests; English words count in either case. -/
def infer (name : String) : FieldType :=
  let lower := String.ofList (name.toList.map Char.toLower)
  if Text.holds name "日期" || Text.holds lower "date" then date
  else if Text.holds name "时间" || Text.holds lower "time" then dateTime
  else if Text.holds name "数量" || Text.holds name "编号" then number
  else if Text.holds name "备注" || Text.holds name "说明" then textArea
  else text

end FieldType

/-- One marker of a template, bound to its cell. -/
structure Descriptor where
  page : String
  cell : Address
  kind : FieldKind
  canonicalName : String
  displayName : String
  default? : Option String
  hint? : Option String
  required : Bool
  editable : Bool
  role? : Option Role
  control? : Option Control
  fieldType : FieldType
  code? : Option String
  cellText : String
  span : Span
  deriving DecidableEq, Repr

namespace Descriptor

/-- Whether the field takes a value of its own, from a report. -/
def isResolvable (d : Descriptor) : Bool :=
  d.kind = .basic || d.kind = .reference

/-- Whether the field takes its value from an earlier report. -/
def isReference (d : Descriptor) : Bool :=
  d.kind = .reference

/-- The place of the field, as in `page1!B3`. -/
def location (d : Descriptor) : String :=
  d.page ++ "!" ++ d.cell.text

end Descriptor

/-- The markers of a template and the issues found with them. -/
structure FieldMap where
  template : String
  descriptors : List Descriptor
  issues : List Diagnostic
  deriving DecidableEq, Repr

/-- The fields that share a cell, in the order of its text. -/
structure CellGroup where
  page : String
  cell : Address
  text : String
  fields : List Descriptor
  deriving DecidableEq, Repr

namespace CellGroup

/-- Whether a field stands in the cell of the group. -/
def owns (g : CellGroup) (d : Descriptor) : Bool :=
  g.page = d.page && g.cell = d.cell

def single (d : Descriptor) : CellGroup :=
  ⟨d.page, d.cell, d.cellText, [d]⟩

/-- The groups of neighbouring fields of the same cell; the text is that of the first field. -/
def neighbours : List Descriptor → List CellGroup
  | [] => []
  | d :: rest =>
      match neighbours rest with
      | [] => [single d]
      | g :: gs =>
          if g.owns d then ⟨d.page, d.cell, d.cellText, d :: g.fields⟩ :: gs
          else single d :: g :: gs

/-- Put a field before the first of the sorted fields that starts after it. -/
def insertField (d : Descriptor) : List Descriptor → List Descriptor
  | [] => [d]
  | e :: rest =>
      if d.span.start ≤ e.span.start then d :: e :: rest else e :: insertField d rest

/-- The fields by the start of their spans; fields that start together keep their order. -/
def sortFields : List Descriptor → List Descriptor
  | [] => []
  | d :: rest => insertField d (sortFields rest)

def sorted (g : CellGroup) : CellGroup :=
  { g with fields := sortFields g.fields }

end CellGroup

/-- What an entry form has to know about a field. -/
structure FormField where
  name : String
  displayName : String
  fieldType : FieldType
  default? : Option String
  hint? : Option String
  required : Bool
  location : String
  deriving DecidableEq, Repr

namespace FieldMap

def onPage (m : FieldMap) (page : String) : List Descriptor :=
  m.descriptors.filter fun d => d.page = page

def cells (m : FieldMap) : List CellGroup :=
  (CellGroup.neighbours m.descriptors).map CellGroup.sorted

/-- The fields that are filled in by hand. -/
def formFields (m : FieldMap) : List FormField :=
  (m.descriptors.filter Descriptor.editable).map fun d =>
    ⟨d.canonicalName, d.displayName, d.fieldType, d.default?, d.hint?, d.required, d.location⟩

end FieldMap

end MarkedSheet
