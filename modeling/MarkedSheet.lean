import MarkedSheet.Address
import MarkedSheet.Calendar.Date
import MarkedSheet.Calendar.NumericDate
import MarkedSheet.Calendar.Pattern
import MarkedSheet.Cells
import MarkedSheet.CommandLine.Arguments
import MarkedSheet.CommandLine.Run
import MarkedSheet.Compilation
import MarkedSheet.Config
import MarkedSheet.Conversion
import MarkedSheet.Converter
import MarkedSheet.Coreutils
import MarkedSheet.Decimal.Binary64
import MarkedSheet.Decimal.Digits
import MarkedSheet.Decimal.Shortest
import MarkedSheet.Diagnostic
import MarkedSheet.Document.Config
import MarkedSheet.Document.FieldMap
import MarkedSheet.Document.FilledGrid
import MarkedSheet.Document.Report
import MarkedSheet.Document.Template
import MarkedSheet.Duration
import MarkedSheet.Encoding
import MarkedSheet.Engine
import MarkedSheet.FieldMap
import MarkedSheet.FileTree
import MarkedSheet.FilledGrid
import MarkedSheet.Generation
import MarkedSheet.Main
import MarkedSheet.Marker.Grammar
import MarkedSheet.Marker.Lexer
import MarkedSheet.Marker.PlainField
import MarkedSheet.Marker.Reading
import MarkedSheet.Marker.Segment
import MarkedSheet.Marker.Token
import MarkedSheet.MethodText
import MarkedSheet.Placement
import MarkedSheet.Plan
import MarkedSheet.Proofs.Address.Reading
import MarkedSheet.Proofs.Address.Text
import MarkedSheet.Proofs.Calendar.LongForm
import MarkedSheet.Proofs.CommandLine.Extensions
import MarkedSheet.Proofs.CommandLine.Runs
import MarkedSheet.Proofs.CommandLine.SavedFiles
import MarkedSheet.Proofs.Compilation.Bindings
import MarkedSheet.Proofs.Compilation.Groups
import MarkedSheet.Proofs.Compilation.Restored
import MarkedSheet.Proofs.Compilation.Scanning
import MarkedSheet.Proofs.Compilation.TableMarks
import MarkedSheet.Proofs.Conversion.Coreutils
import MarkedSheet.Proofs.Conversion.Runs
import MarkedSheet.Proofs.Decimal.Digits
import MarkedSheet.Proofs.Document.FieldMaps
import MarkedSheet.Proofs.Document.Templates
import MarkedSheet.Proofs.Engine.BestEffort
import MarkedSheet.Proofs.Engine.Conversions
import MarkedSheet.Proofs.Engine.Failures
import MarkedSheet.Proofs.Engine.KeptFieldMaps
import MarkedSheet.Proofs.Engine.LineItems
import MarkedSheet.Proofs.Engine.OnDemand
import MarkedSheet.Proofs.Engine.Requests
import MarkedSheet.Proofs.FileTree.Writes
import MarkedSheet.Proofs.FirstOccurrences
import MarkedSheet.Proofs.Generation.CellByCell
import MarkedSheet.Proofs.Generation.Disclosure
import MarkedSheet.Proofs.Generation.Interleaving
import MarkedSheet.Proofs.Generation.Replacing
import MarkedSheet.Proofs.Generation.Runs
import MarkedSheet.Proofs.Generation.StoredSpans
import MarkedSheet.Proofs.Generation.TableRegion
import MarkedSheet.Proofs.Grid.Contents
import MarkedSheet.Proofs.Grid.Writes
import MarkedSheet.Proofs.Marker.Accounting
import MarkedSheet.Proofs.Marker.Brackets
import MarkedSheet.Proofs.Marker.Grammar
import MarkedSheet.Proofs.Marker.PlainFields
import MarkedSheet.Proofs.Marker.Rendering
import MarkedSheet.Proofs.Marker.Segments
import MarkedSheet.Proofs.Marker.Slices
import MarkedSheet.Proofs.Marker.Tiling
import MarkedSheet.Proofs.Marker.Tokens
import MarkedSheet.Proofs.MethodText.Identifiers
import MarkedSheet.Proofs.MethodText.TwoLines
import MarkedSheet.Proofs.Placement.Collisions
import MarkedSheet.Proofs.Placement.Origins
import MarkedSheet.Proofs.Placement.Plans
import MarkedSheet.Proofs.Placement.Regions
import MarkedSheet.Proofs.Placement.Seats
import MarkedSheet.Proofs.Registry.Entries
import MarkedSheet.Proofs.Registry.Lookup
import MarkedSheet.Proofs.Resolution.Fields
import MarkedSheet.Proofs.Resolution.References
import MarkedSheet.Proofs.Store.InsertedReports
import MarkedSheet.Proofs.Store.LatestApproved
import MarkedSheet.Proofs.Store.Names
import MarkedSheet.Proofs.Template.Building
import MarkedSheet.Proofs.Template.TextCells
import MarkedSheet.Proofs.Template.Validation
import MarkedSheet.Proofs.Text.ByteOrder
import MarkedSheet.Proofs.Text.Runs
import MarkedSheet.Proofs.Text.Slices
import MarkedSheet.Proofs.Text.Trimmed
import MarkedSheet.Proofs.Toml.Documents
import MarkedSheet.Proofs.Toml.Records
import MarkedSheet.Proofs.Toml.Statements
import MarkedSheet.Proofs.Toml.Strings
import MarkedSheet.Proofs.Toml.Values
import MarkedSheet.Registry.Basic
import MarkedSheet.Registry.Reference
import MarkedSheet.Registry.Standard
import MarkedSheet.Report
import MarkedSheet.Resolution
import MarkedSheet.Store
import MarkedSheet.Substitution
import MarkedSheet.Surroundings
import MarkedSheet.Template
import MarkedSheet.Text.Blank
import MarkedSheet.Text.Bytes
import MarkedSheet.Text.Extender
import MarkedSheet.Text.Quoted
import MarkedSheet.Text.Search
import MarkedSheet.Text.Unprintable
import MarkedSheet.Toml.Decoder
import MarkedSheet.Toml.Item
import MarkedSheet.Toml.Printer
import MarkedSheet.Toml.Quotation
import MarkedSheet.Toml.Reader
import MarkedSheet.Toml.Scalar
import MarkedSheet.Toml.Tree
import MarkedSheet.Value
import MarkedSheet.Word
