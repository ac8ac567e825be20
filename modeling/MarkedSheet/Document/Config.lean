import MarkedSheet.Config
import MarkedSheet.Toml.Decoder

/-!
# Configurations in documents

A document holds the choices that differ from the standard ones.
-/

namespace MarkedSheet

open Toml

def Conversion.record : Record Conversion :=
  Conversion.mk
    <$> Record.required "program" Decoder.string
    <*> Record.withDefault "args" (Decoder.list Decoder.string) Conversion.defaultArgs
    <*> Record.withDefault "timeout_secs" (Decoder.natural UInt64.size "u64")
      Conversion.defaultTimeoutSeconds
    <*> Record.withDefault "extension" Decoder.string Conversion.defaultExtension

namespace Config

def record : Record Config :=
  Config.mk
    <$> Record.withDefault "date_format" Decoder.string standard.dateFormat
    <*> Record.withDefault "format_dates" Decoder.boolean standard.formatDates
    <*> Record.withDefault "split_methods" Decoder.boolean standard.splitMethods
    <*> Record.withDefault "conversion"
      (Decoder.optional (Conversion.record.lenient "ConversionConfig")) standard.conversion?

/-- The configuration that a document describes. -/
def ofToml (text : String) : Except LoadError Config :=
  load (record.lenient "EngineConfig") text

end Config

end MarkedSheet
