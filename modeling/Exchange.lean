import Exchange.Client.Progress
import Exchange.Console.Report
import Exchange.Endpoint
import Exchange.Envelope.Request
import Exchange.Main
import Exchange.Route.Pattern
import Exchange.Shaping
import Exchange.Sink
import Exchange.Proofs.Activation
import Exchange.Proofs.Client.Agreement
import Exchange.Proofs.Client.Arriving
import Exchange.Proofs.Dispatch.Flattening
import Exchange.Proofs.Hub.Delivery
import Exchange.Proofs.Hub.Race
import Exchange.Proofs.Limits
import Exchange.Proofs.Multiplexing
import Exchange.Proofs.Route.Registry
import Exchange.Proofs.Framing.Runs
import Exchange.Proofs.Envelope.Encodings
import Exchange.Proofs.Client.Handed
import Exchange.Proofs.Client.Streams
import Exchange.Proofs.Client.Calls
import Exchange.Proofs.Client.Shutdown
import Exchange.Proofs.Hub.Plugins
import Exchange.Proofs.Route.Renaming
import Exchange.Proofs.Dispatch.Standins
import Exchange.Proofs.Dispatch.Mirrors
import Exchange.Proofs.Dispatch.Mounting
import Exchange.Proofs.Shaping.Passing
import Exchange.Proofs.Roster
import Exchange.Proofs.Counting
import Exchange.Proofs.Lifetimes
import Exchange.Proofs.Shaping.Framed
import Exchange.Proofs.Client.Polling
import Exchange.Proofs.Client.Faults
import Exchange.Proofs.Answers
import Exchange.Proofs.Route.Grammar
import Exchange.Proofs.Acceptance
import Exchange.Proofs.Dispatch.Cycles
import Exchange.Proofs.Stopping
import Exchange.Proofs.Route.Nesting
import Exchange.Proofs.Endpoint
import Exchange.Proofs.Status.Coercion
