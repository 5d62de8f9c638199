import Faults.Fault.Boxed
import Faults.Fault.Canonical
import Faults.Fault.Registers
import Faults.Log.Capture
import Faults.Log.Draft
import Faults.Log.Terminal
import Faults.Tagging.Attempt
import Faults.Tagging.Sequence
import Faults.Proofs.SelfDelimiting
import Faults.Proofs.DecimalNumerals
import Faults.Proofs.BoundedReading
import Faults.Proofs.CanonicalText
import Faults.Proofs.HashStream
import Faults.Proofs.SinglePlaceholder
import Faults.Proofs.TaggingChains
import Faults.Proofs.QuotedText
import Faults.Proofs.StructuredLayouts
import Faults.Proofs.InspectedFaults
import Faults.Proofs.SerializedRecords
import Faults.Proofs.LoggerTrees
import Faults.Proofs.TerminalLines
import Faults.Proofs.TemplateSegments
import Faults.Proofs.WordedFaults
import Faults.Proofs.AskedSpecifications
import Faults.Proofs.LoggedFaults
import Faults.Proofs.StageRows
import Faults.Proofs.SpecifiedFaults
import Faults.Proofs.IntegerMessages
import Faults.Proofs.ReadingInTurn
import Faults.Proofs.DistinctFaults
