import MarkedSheet.Template
import MarkedSheet.Toml.Decoder

/-!
# Templates in documents

A document holds the name of a template and its pages, each with its dimensions and the texts of
its cells by address.  A template that is read has to be valid.
-/

namespace MarkedSheet

open Toml

/-- Contents by address; an address that comes again replaces what it had. -/
def Cells.decoder {α : Type} (content : Decoder α) : Decoder (Cells α) := fun item =>
  (Decoder.entries Decoder.addressOfText content item).map Cells.ofList

def Page.record : Record Page :=
  Page.mk
    <$> Record.required "id" Decoder.string
    <*> Record.required "rows" Decoder.word32
    <*> Record.required "cols" Decoder.word32
    <*> Record.withDefault "cells" (Cells.decoder Decoder.string) Cells.empty

namespace Template

def record : Record Template :=
  Template.mk
    <$> Record.required "id" Decoder.string
    <*> Record.withDefault "pages" (Decoder.list (Page.record.lenient "Page")) []

/-- Why a text gives no template. -/
inductive LoadError where
  | unreadable (failure : Toml.LoadError)
  | invalid (fault : TemplateError)
  deriving DecidableEq, Repr

def LoadError.message : LoadError → String
  | unreadable failure => "failed to parse template TOML: " ++ failure.message
  | invalid fault => fault.message

/-- The valid template that a document describes. -/
def ofToml (text : String) : Except LoadError Template :=
  match load (record.lenient "Template") text with
  | .error failure => .error (.unreadable failure)
  | .ok t => t.validate.mapError .invalid

end Template

end MarkedSheet
