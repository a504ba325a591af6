import Schematic.Change
import Schematic.JsonSchema
import Schematic.Log
import Schematic.Proofs.Failure.Path
import Schematic.Proofs.Loading.Exactness
import Schematic.Proofs.Schema.RoundTrip
import Schematic.Proofs.Session.Returns
import Schematic.Proofs.Validation.FirstFault
import Schematic.Report.Builder
import Schematic.Session
import Schematic.Proofs.Tag.Acceptance
import Schematic.Proofs.Derivation.Existence
import Schematic.Proofs.Derivation.Members
import Schematic.Proofs.SchemaCache.Transparency
import Schematic.Proofs.Derivation.Stability
import Schematic.Proofs.Session.Staleness
import Schematic.Proofs.Schema.Revision
import Schematic.Proofs.Derivation.Nodes
import Schematic.Proofs.JsonSchema.Meaning
import Schematic.Proofs.Session.Revision
import Schematic.Proofs.Loading.Precedence
import Schematic.Proofs.Loading.Defaults
import Schematic.Proofs.Schema.Storage
import Schematic.Proofs.Session.Interchange
import Schematic.Proofs.Time.Writing
import Schematic.Proofs.Tag.Concatenation
import Schematic.Proofs.Tag.LastPair
import Schematic.Proofs.Tag.Writing
import Schematic.Proofs.Validation.Message
import Schematic.Proofs.Derivation.FirstFailure
import Schematic.Proofs.Validation.Relaxation
import Schematic.Proofs.Session.Repetition
import Schematic.Proofs.Schema.Text
import Schematic.Proofs.Schema.Refusal
import Schematic.Proofs.MemberName
import Schematic.Proofs.JsonSchema.Injectivity
import Schematic.Proofs.Loading.ZeroValues
import Schematic.Proofs.Derivation.Erasure
