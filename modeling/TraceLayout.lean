import TraceLayout.Json.Reader
import TraceLayout.Main
import TraceLayout.Proofs.Catalogue.Soundness
import TraceLayout.Proofs.Layout.DenseTable
import TraceLayout.Proofs.Kernel.FieldLine
import TraceLayout.Proofs.Kernel.FormatGrammar
import TraceLayout.Proofs.Kernel.FormatReading
import TraceLayout.Proofs.Kernel.ParsedFormat
import TraceLayout.Proofs.Kernel.Inference
import TraceLayout.Proofs.Wire.Lossless
import TraceLayout.Proofs.Layout.DenseIndex
import TraceLayout.Proofs.Layout.Accounting
import TraceLayout.Proofs.Layout.RecordFields
import TraceLayout.Proofs.Layout.FieldResolution
import TraceLayout.Proofs.Layout.RecordSize
import TraceLayout.Proofs.Layout.Extension
import TraceLayout.Proofs.Layout.Selection
import TraceLayout.Proofs.Text.Trim
import TraceLayout.Proofs.Kernel.Rendering
import TraceLayout.Proofs.Kernel.Characters
import TraceLayout.Proofs.Layout.SharedHeader
import TraceLayout.Proofs.Layout.TextFields
import TraceLayout.Proofs.Kernel.ArrayExtents
import TraceLayout.Proofs.Kernel.Aggregates
import TraceLayout.Proofs.Files.Lookup
import TraceLayout.Proofs.Files.FormatTree
import TraceLayout.Proofs.Layout.Sources
import TraceLayout.Proofs.Json.Variants
import TraceLayout.Proofs.Json.RoundTrip
import TraceLayout.Proofs.Layout.Logging
import TraceLayout.Proofs.Text.ByteOrder
import TraceLayout.Proofs.Files.Components
import TraceLayout.Proofs.Files.Listing
import TraceLayout.Proofs.Layout.Refusal
import TraceLayout.Proofs.Kernel.FieldSegments
import TraceLayout.Proofs.Layout.LineSpacing
import TraceLayout.Proofs.Command.BuildSettings
import TraceLayout.Proofs.Kernel.Declarations
