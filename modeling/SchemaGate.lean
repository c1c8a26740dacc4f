import SchemaGate.Main
import SchemaGate.Proofs.Detection.CommentedDoctype
import SchemaGate.Proofs.Table.Written
import SchemaGate.Proofs.Encoding.Utf8
import SchemaGate.Proofs.Detection.Arrival
import SchemaGate.Proofs.Detection.Chunks
import SchemaGate.Proofs.Detection.Closing
import SchemaGate.Proofs.Detection.Refusal
import SchemaGate.Proofs.Detection.Malformed
import SchemaGate.Proofs.Encoding.ByteOrder
import SchemaGate.Proofs.Outcome
import SchemaGate.Proofs.Run
import SchemaGate.Proofs.Discipline
import SchemaGate.Proofs.Loading.Steps
import SchemaGate.Proofs.Table.Memory
import SchemaGate.Proofs.Resource.Reach
import SchemaGate.Proofs.Resource.Watched
import SchemaGate.Proofs.Resource.Session
import SchemaGate.Proofs.Xml.Asking
import SchemaGate.Proofs.Loading.Hearing
import SchemaGate.Proofs.Xml.Names
import SchemaGate.Proofs.Xml.Unqualified
import SchemaGate.Proofs.Files.Path
import SchemaGate.Proofs.Loading.Reader
import SchemaGate.Proofs.Loading.Sharing
import SchemaGate.Proofs.Detection.CommentBlock
import SchemaGate.Proofs.Detection.Misleading
import SchemaGate.Proofs.Behaviour
import SchemaGate.Proofs.Loading.Behaviour
import SchemaGate.Proofs.CommandLine.Status
import SchemaGate.Proofs.Loading.Ending
import SchemaGate.Proofs.CommandLine.Ending
import SchemaGate.Proofs.Detection.LineEnds
import SchemaGate.Proofs.Detection.FirstTag
import SchemaGate.Proofs.Detection.LineOutcome
import SchemaGate.Proofs.Table.Continuation
import SchemaGate.Proofs.Table.Composition
import SchemaGate.Proofs.Table.LineEnd
import SchemaGate.Proofs.Table.UnicodeEscape
import SchemaGate.Proofs.Resource.Directories
import SchemaGate.Proofs.Resource.Resolution
import SchemaGate.Proofs.Loading.Course
import SchemaGate.Proofs.Loading.Accounting
import SchemaGate.Proofs.Loading.Awareness
import SchemaGate.Proofs.Xml.WholeDoctype
import SchemaGate.Proofs.Loading.DoctypeValidation
import SchemaGate.Proofs.Settings.Shape
import SchemaGate.Proofs.Xml.Stripped
import SchemaGate.Proofs.Json.Ascii
import SchemaGate.Proofs.Json.Front
import SchemaGate.Proofs.Settings.RoundTrip
import SchemaGate.Proofs.Xml.SchemaLocation
import SchemaGate.Proofs.Xml.FirstBrace
import SchemaGate.Proofs.Xml.Prefixes
import SchemaGate.Proofs.Collected
