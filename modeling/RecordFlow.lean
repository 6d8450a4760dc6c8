import RecordFlow.Main
import RecordFlow.Proofs.Bytes
import RecordFlow.Proofs.CommandLine.Compression
import RecordFlow.Proofs.Operation.Lines
import RecordFlow.Proofs.Operation.Moving
import RecordFlow.Proofs.Operation.Naming
import RecordFlow.Proofs.Path.AccessorLaws
import RecordFlow.Proofs.Path.Divergence
import RecordFlow.Proofs.Path.Erasing
import RecordFlow.Proofs.Path.Forecast
import RecordFlow.Proofs.Path.Grammar
import RecordFlow.Proofs.Path.Independence
import RecordFlow.Proofs.Path.Obstacles
import RecordFlow.Proofs.Path.Persistence
import RecordFlow.Proofs.Pipeline.Batches
import RecordFlow.Proofs.Pipeline.Calls
import RecordFlow.Proofs.Pipeline.Control
import RecordFlow.Proofs.Pipeline.Invariants
import RecordFlow.Proofs.Pipeline.Metadata
import RecordFlow.Proofs.Pipeline.NestedConversions
import RecordFlow.Proofs.Pipeline.NestedOutput
import RecordFlow.Proofs.Pipeline.Splits
import RecordFlow.Proofs.Script.Addresses
import RecordFlow.Proofs.Script.ArgumentRules
import RecordFlow.Proofs.Script.Assignment
import RecordFlow.Proofs.Script.Blame
import RecordFlow.Proofs.Script.CustomCalls
import RecordFlow.Proofs.Script.Depth
import RecordFlow.Proofs.Script.Grammar
import RecordFlow.Proofs.Script.Joining
import RecordFlow.Proofs.Script.Nesting
import RecordFlow.Proofs.Script.Outline
import RecordFlow.Proofs.Script.Quoting
import RecordFlow.Proofs.Script.Splitting
import RecordFlow.Proofs.Script.Written
import RecordFlow.Proofs.Setting.Mirror
import RecordFlow.Proofs.Text.Separators
