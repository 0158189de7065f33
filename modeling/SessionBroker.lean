import SessionBroker.Crypto.TaggedXor
import SessionBroker.Main
import SessionBroker.Protocol.Transcript
import SessionBroker.Proofs.Protocol.Awaits
import SessionBroker.Proofs.Protocol.Run
import SessionBroker.Proofs.Table
import SessionBroker.Proofs.Executor.Keeps
import SessionBroker.Proofs.Protocol.Script
import SessionBroker.Proofs.Broker.Frame
import SessionBroker.Proofs.Broker.Sound
import SessionBroker.Proofs.Broker.Task
import SessionBroker.Proofs.Executor.Reach
import SessionBroker.Proofs.Broker.Atomic
import SessionBroker.Proofs.Executor.Atomic
import SessionBroker.Proofs.Guard.Counters
import SessionBroker.Proofs.Executor.Counting
import SessionBroker.Proofs.Broker.Unknown
import SessionBroker.Proofs.Executor.Guessing
import SessionBroker.Proofs.Ticket.Final
import SessionBroker.Proofs.Crypto.Recovery
import SessionBroker.Proofs.Dict
import SessionBroker.Proofs.Executor.Delivery
import SessionBroker.Proofs.Json.RoundTrip
import SessionBroker.Proofs.Text.Utf8
import SessionBroker.Proofs.Ticket.Envelope
import SessionBroker.Proofs.Ticket.Isolation
import SessionBroker.Proofs.Ticket.Messages
import SessionBroker.Proofs.Ticket.Race
import SessionBroker.Proofs.Ticket.Refinement
import SessionBroker.Proofs.Ticket.Sweep
import SessionBroker.Proofs.Ticket.Locality
import SessionBroker.Proofs.Ticket.Tunnel
import SessionBroker.Proofs.UserService.Outcome
import SessionBroker.Proofs.UserService.Refusal
import SessionBroker.Proofs.Broker.Visit
import SessionBroker.Proofs.Executor.Course
import SessionBroker.Proofs.Executor.Condemned
import SessionBroker.Proofs.Executor.Cancellation
import SessionBroker.Proofs.Executor.Frozen
import SessionBroker.Proofs.Broker.Tokens
import SessionBroker.Proofs.Turns
import SessionBroker.Proofs.Protocol.Interleave
import SessionBroker.Proofs.Protocol.RegisterRace
import SessionBroker.Proofs.Protocol.Asks
import SessionBroker.Proofs.Executor.Entries
import SessionBroker.Proofs.Executor.Registration
import SessionBroker.Proofs.Broker.Aliases
import SessionBroker.Proofs.Executor.Aliasing
import SessionBroker.Proofs.Executor.Breakdown
import SessionBroker.Proofs.Executor.Restraint
import SessionBroker.Proofs.Broker.Sessions
import SessionBroker.Proofs.Protocol.Sessions
import SessionBroker.Proofs.Protocol.LogoutRace
import SessionBroker.Proofs.Protocol.SessionRace
import SessionBroker.Proofs.Broker.Search
import SessionBroker.Proofs.Executor.Notices
import SessionBroker.Proofs.Text.Case
import SessionBroker.Proofs.Uuid
import SessionBroker.Proofs.Executor.Binding
import SessionBroker.Proofs.Broker.Shown
import SessionBroker.Proofs.Executor.LetterCase
import SessionBroker.Proofs.Http.Forwarding
import SessionBroker.Proofs.Protocol.Driven
import SessionBroker.Proofs.Protocol.SessionLists
import SessionBroker.Proofs.Executor.Errands
import SessionBroker.Proofs.Executor.SessionHistory
import SessionBroker.Proofs.UserService.History
import SessionBroker.Persistence
import SessionBroker.Proofs.Restraint
import SessionBroker.Proofs.Guard.Race
import SessionBroker.Proofs.Crypto.Sealing
import SessionBroker.Proofs.Persistence
import SessionBroker.Proofs.Guard.Purging
import SessionBroker.Proofs.Executor.Records
import SessionBroker.Proofs.Broker.Departure
import SessionBroker.Proofs.Executor.Logout
import SessionBroker.Proofs.Executor.Readiness
import SessionBroker.Proofs.Executor.Restart
import SessionBroker.Proofs.Actor.Version
import SessionBroker.Proofs.Http.Stamp
import SessionBroker.Proofs.UserService.Placement
import SessionBroker.Proofs.Executor.Assignment
import SessionBroker.Proofs.Broker.Deletion
import SessionBroker.Proofs.Executor.Deletion
import SessionBroker.Proofs.Crypto.Tagging
import SessionBroker.Proofs.Actor.Identity
