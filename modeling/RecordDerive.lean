import RecordDerive.Config
import RecordDerive.Code.Generate
import RecordDerive.Declaration.Product
import RecordDerive.Metadata.Interner
import RecordDerive.Output.Disk
import RecordDerive.Output.Memory
import RecordDerive.Output.Refusing
import RecordDerive.Round.Processor
import RecordDerive.Proofs.Metadata.RoundTrip
import RecordDerive.Proofs.Round.Refinement
import RecordDerive.Proofs.Round.History
import RecordDerive.Proofs.Round.Lifecycle
import RecordDerive.Proofs.Round.Regrouping
import RecordDerive.Proofs.Wire.Consumption
import RecordDerive.Proofs.Metadata.Reencoding
import RecordDerive.Proofs.Declaration.Registration
import RecordDerive.Proofs.Code.Generation
import RecordDerive.Proofs.Code.Target
import RecordDerive.Proofs.Code.Allotment
import RecordDerive.Proofs.Layout.Printable
import RecordDerive.Proofs.Code.SameStructure
import RecordDerive.Proofs.Output.Delivery
import RecordDerive.Proofs.Round.DryRun
import RecordDerive.Proofs.Round.Replacement
import RecordDerive.Proofs.Code.Isolation
import RecordDerive.Proofs.Round.Insertion
import RecordDerive.Proofs.Code.Reading
import RecordDerive.Proofs.Code.Promises
import RecordDerive.Proofs.Round.Siblings
import RecordDerive.Proofs.Metadata.PrefixFree
import RecordDerive.Proofs.Round.Account
import RecordDerive.Proofs.Output.Attempts
import RecordDerive.Proofs.Grammar.Consumption
import RecordDerive.Proofs.Grammar.PlainType
import RecordDerive.Proofs.Grammar.Reading
import RecordDerive.Proofs.Grammar.Scanning
import RecordDerive.Proofs.Grammar.Spelling
import RecordDerive.Proofs.Code.Printable
import RecordDerive.Proofs.Code.Plain
import RecordDerive.Proofs.Declaration.WellFormed
import RecordDerive.Proofs.Round.Completeness
import RecordDerive.Proofs.Metadata.Sharing
import RecordDerive.Proofs.Grammar.Progress
import RecordDerive.Proofs.Layout.Front
import RecordDerive.Proofs.Code.Header
import RecordDerive.Proofs.Code.Hazard
import RecordDerive.Proofs.Code.Undisputed
import RecordDerive.Proofs.Round.Order
import RecordDerive.Proofs.Metadata.Resolution
import RecordDerive.Proofs.Declaration.Rendering
import RecordDerive.Proofs.Declaration.Extractable
import RecordDerive.Proofs.Code.Division
import RecordDerive.Proofs.Metadata.UniqueReading
import RecordDerive.Proofs.Declaration.Depth
import RecordDerive.Proofs.Metadata.Gating
import RecordDerive.Proofs.Code.Containment
import RecordDerive.Proofs.Declaration.Renumbering
import RecordDerive.Proofs.Metadata.Enclosure
import RecordDerive.Proofs.Declaration.Labels
import RecordDerive.Proofs.Declaration.LatestWrites
import RecordDerive.Proofs.Declaration.RecordedName
import RecordDerive.Proofs.Round.Attribution
import RecordDerive.Proofs.Metadata.Solvency
import RecordDerive.Proofs.Code.Members
import RecordDerive.Proofs.Grammar.Quotation
import RecordDerive.Proofs.Layout.Texts
import RecordDerive.Proofs.Code.Templates
import RecordDerive.Proofs.Layout.Lines
import RecordDerive.Proofs.Code.Operations
