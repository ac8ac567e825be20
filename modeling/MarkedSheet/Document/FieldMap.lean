import MarkedSheet.FieldMap
import MarkedSheet.Toml.Decoder
import MarkedSheet.Toml.Printer

/-!
# Field maps in documents

A field map is written with all fields of its descriptors, values that are absent left out, and it
can be read back.
-/

namespace MarkedSheet

open Toml

/-- An entry that is left out when its value is absent. -/
def Toml.optionalEntry {α : Type} (name : String) (encode : α → Item) : Option α → Table
  | some a => [(name, encode a)]
  | none => []

namespace Span

def record : Record Span :=
  Span.mk
    <$> Record.required "start" (Decoder.natural UInt64.size "usize")
    <*> Record.required "end" (Decoder.natural UInt64.size "usize")

/-- A span, which has no other fields. -/
def decoder : Decoder Span :=
  record.decoder true "struct Range" ""

def table (s : Span) : Table :=
  [("start", .integer s.start), ("end", .integer s.stop)]

end Span

namespace Diagnostic

def record : Record Diagnostic :=
  Diagnostic.mk
    <$> Record.required "category" (Decoder.variant Category.all Category.word)
    <*> Record.required "message" Decoder.string
    <*> Record.withDefault "page_id" (Decoder.optional Decoder.string) none
    <*> Record.withDefault "cell" (Decoder.optional Decoder.address) none

def table (d : Diagnostic) : Table :=
  [("category", .string d.category.word), ("message", .string d.message)] ++
    optionalEntry "page_id" Item.string d.page? ++
    optionalEntry "cell" (fun a => Item.string a.text) d.cell?

end Diagnostic

namespace Descriptor

def record : Record Descriptor :=
  Descriptor.mk
    <$> Record.required "page_id" Decoder.string
    <*> Record.required "cell" Decoder.address
    <*> Record.required "kind" (Decoder.variant FieldKind.all FieldKind.word)
    <*> Record.required "canonical_name" Decoder.string
    <*> Record.required "display_name" Decoder.string
    <*> Record.withDefault "default_value" (Decoder.optional Decoder.string) none
    <*> Record.withDefault "placeholder" (Decoder.optional Decoder.string) none
    <*> Record.required "required" Decoder.boolean
    <*> Record.required "editable" Decoder.boolean
    <*> Record.withDefault "column_role"
      (Decoder.optional (Decoder.variant Role.all Role.word)) none
    <*> Record.withDefault "control"
      (Decoder.optional (Decoder.variant Control.all Control.word)) none
    <*> Record.withDefault "field_type" (Decoder.variant FieldType.all FieldType.word)
      FieldType.text
    <*> Record.withDefault "registry_code" (Decoder.optional Decoder.string) none
    <*> Record.required "original_cell_text" Decoder.string
    <*> Record.required "source_span" Span.decoder

def table (d : Descriptor) : Table :=
  [("page_id", .string d.page), ("cell", .string d.cell.text), ("kind", .string d.kind.word),
      ("canonical_name", .string d.canonicalName), ("display_name", .string d.displayName)] ++
    optionalEntry "default_value" Item.string d.default? ++
    optionalEntry "placeholder" Item.string d.hint? ++
    [("required", .boolean d.required), ("editable", .boolean d.editable)] ++
    optionalEntry "column_role" (fun r => Item.string r.word) d.role? ++
    optionalEntry "control" (fun c => Item.string c.word) d.control? ++
    [("field_type", .string d.fieldType.word)] ++
    optionalEntry "registry_code" Item.string d.code? ++
    [("original_cell_text", .string d.cellText), ("source_span", .table d.span.table)]

end Descriptor

namespace FieldMap

def record : Record FieldMap :=
  FieldMap.mk
    <$> Record.required "template_id" Decoder.string
    <*> Record.withDefault "descriptors"
      (Decoder.list (Descriptor.record.lenient "FieldDescriptor")) []
    <*> Record.withDefault "issues" (Decoder.list (Diagnostic.record.lenient "Diagnostic")) []

/-- The entries of a field map; a list without issues is left out. -/
def table (m : FieldMap) : Table :=
  [("template_id", .string m.template),
      ("descriptors", .rows (m.descriptors.map Descriptor.table))] ++
    if m.issues.isEmpty then [] else [("issues", .rows (m.issues.map Diagnostic.table))]

/-- The field map that a document describes. -/
def ofToml (text : String) : Except LoadError FieldMap :=
  load (record.lenient "FieldMap") text

/-- The document of a field map. -/
def toToml (m : FieldMap) : String :=
  print m.table

end FieldMap

end MarkedSheet
