import Conformance.Main
import Conformance.Rehearsal
import Conformance.Variant.Json
import Conformance.Proofs.CheckerVerdict
import Conformance.Proofs.ConverterVerdict
import Conformance.Proofs.StageOrder
import Conformance.Proofs.Literal.Token
import Conformance.Proofs.Literal.Reading
import Conformance.Proofs.Literal.RoundTrip
import Conformance.Proofs.Directive.Block
import Conformance.Proofs.Directive.RoundTrip
import Conformance.Proofs.Catalog.Identity
import Conformance.Proofs.Catalog.Registration
import Conformance.Proofs.MemoryViolation
import Conformance.Proofs.Configuration
import Conformance.Proofs.OptionalValidator
import Conformance.Proofs.Catalog.Shelves
import Conformance.Proofs.Text.ByteOrder
import Conformance.Proofs.Catalog.Entries
import Conformance.Proofs.Path
import Conformance.Proofs.Catalog.Discovery
import Conformance.Proofs.Text.Trim
import Conformance.Proofs.FailureCause
import Conformance.Proofs.Instrumentation
import Conformance.Proofs.Run
import Conformance.Proofs.Handover
import Conformance.Proofs.Independence
import Conformance.Proofs.Wildcard
import Conformance.Proofs.Report
import Conformance.Proofs.Expectations
import Conformance.Proofs.Summary
import Conformance.Proofs.CommandLine
import Conformance.Proofs.Scratch
import Conformance.Proofs.StageInputs
import Conformance.Literal.Scanner
import Conformance.Proofs.Literal.Position
import Conformance.Proofs.Literal.Scanner
import Conformance.Directive.Position
import Conformance.Proofs.Directive.Line
import Conformance.Proofs.Text.WordRuns
import Conformance.Proofs.Directive.Spacing
import Conformance.Proofs.Facts
import Conformance.Proofs.Probes
import Conformance.Proofs.StageAgreement
import Conformance.Proofs.TestName
import Conformance.Proofs.Totals
import Conformance.Proofs.Restoration
