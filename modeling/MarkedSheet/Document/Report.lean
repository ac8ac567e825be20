import MarkedSheet.Report
import MarkedSheet.Toml.Decoder

/-!
# Reports in documents

A document holds one report, or a history of them.  Only the names of reports and line items have
to be given; everything else has a default.
-/

namespace MarkedSheet

open Toml

/-- A whole number, a floating-point number or a text. -/
def Value.decoder : Decoder Value
  | .integer n => .ok (.integer n)
  | .float x => .ok (.float x)
  | .string s => .ok (.text s)
  | _ => .error (.noVariant "CellValue")

def Values.decoder : Decoder Values :=
  Decoder.entries Except.ok Value.decoder

def LineItem.record : Record LineItem :=
  LineItem.mk
    <$> Record.required "name" Decoder.string
    <*> Record.withDefault "unit" Decoder.string ""
    <*> Record.withDefault "result" Decoder.string ""
    <*> Record.withDefault "limit" Decoder.string ""
    <*> Record.withDefault "method" Decoder.string ""
    <*> Record.withDefault "judgment" (Decoder.optional Decoder.string) none

namespace Report

def record : Record Report :=
  Report.mk
    <$> Record.required "id" Decoder.string
    <*> Record.withDefault "business_key" Decoder.string ""
    <*> Record.withDefault "status" (Decoder.variant Status.all Status.word) Status.draft
    <*> Record.withDefault "approved_at" (Decoder.optional Decoder.string) none
    <*> Record.withDefault "field_values" Values.decoder []
    <*> Record.withDefault "metadata" Values.decoder []
    <*> Record.withDefault "line_items" (Decoder.list (LineItem.record.lenient "LineItem")) []

/-- The report that a document describes. -/
def ofToml (text : String) : Except LoadError Report :=
  load (record.lenient "Report") text

def listRecord : Record (List Report) :=
  Record.withDefault "reports" (Decoder.list (record.lenient "Report")) []

/-- The reports that a document lists, as they are written. -/
def listOfToml (text : String) : Except LoadError (List Report) :=
  load (listRecord.lenient "History") text

end Report

end MarkedSheet
