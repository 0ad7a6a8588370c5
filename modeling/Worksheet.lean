import Worksheet.Engine
import Worksheet.Function.Generic
import Worksheet.Proofs.Address.Letters
import Worksheet.Proofs.Address.Spelling
import Worksheet.Proofs.Alike
import Worksheet.Proofs.Answer
import Worksheet.Proofs.Binding
import Worksheet.Proofs.CellLimit
import Worksheet.Proofs.CellRule
import Worksheet.Proofs.CommonExtent
import Worksheet.Proofs.Conditional
import Worksheet.Proofs.EagerFailure
import Worksheet.Proofs.Elementwise
import Worksheet.Proofs.Fallback
import Worksheet.Proofs.Grid.Block
import Worksheet.Proofs.Grid.Rows
import Worksheet.Proofs.Grid.Window
import Worksheet.Proofs.Partition
import Worksheet.Proofs.Provenance
import Worksheet.Proofs.Range.Enumeration
import Worksheet.Proofs.Range.RoundTrip
import Worksheet.Proofs.Registration
import Worksheet.Proofs.Replication
import Worksheet.Proofs.Selection
import Worksheet.Proofs.Sheet.Bounds
import Worksheet.Proofs.Sheet.Edits
import Worksheet.Proofs.Sheet.Spill
import Worksheet.Proofs.Sheet.View
import Worksheet.Proofs.Spread
import Worksheet.Proofs.TextOperand
import Worksheet.Proofs.Totality
import Worksheet.Proofs.WellFormed
import Worksheet.Range
import Worksheet.Sheet.Basic
import Worksheet.Proofs.Grid.RowsError
import Worksheet.Proofs.Rectangle
import Worksheet.Proofs.Mapping
import Worksheet.Document
import Worksheet.Proofs.Cellwise
import Worksheet.Proofs.Document
