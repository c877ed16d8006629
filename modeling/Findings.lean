import Findings.Event.Message
import Findings.Main
import Findings.Record.Json
import Findings.Proofs.Run.Results
import Findings.Proofs.Synthesis.Telling
import Findings.Proofs.Record.RoundTrip
import Findings.Proofs.Feed.Actions
import Findings.Proofs.Record.Exactness
import Findings.Proofs.Run.Actions
import Findings.Proofs.Run.Remembering
import Findings.Proofs.Run.Forgetting
import Findings.Proofs.Feed.Honesty
import Findings.Proofs.Run.Transparency
import Findings.Proofs.Command.Caching
import Findings.Proofs.Run.Interchange
import Findings.Proofs.Entry.Members
import Findings.Proofs.Run.Origins
import Findings.Proofs.Synthesis.Union
import Findings.Proofs.Command.Configuring
import Findings.Proofs.Record.Truncation
import Findings.Proofs.Record.Corruption
import Findings.Proofs.Command.Endings
import Findings.Proofs.Run.Observation
import Findings.Proofs.Record.Header
import Findings.Proofs.Run.Writing
import Findings.Proofs.Number.Nearest
import Findings.Proofs.Number.Doubles
import Findings.Proofs.Number.Places
import Findings.Proofs.Entry.Composition
import Findings.Proofs.Json.Recovery
import Findings.Proofs.Context.Restoring
import Findings.Proofs.Json.Numerals
import Findings.Proofs.Json.Spelling
import Findings.Proofs.Event.Restoring
import Findings.Proofs.Entry.Restoring
import Findings.Proofs.Run.Delivery
import Findings.Proofs.Record.Bounds
import Findings.Proofs.Text.SentenceCase
