import SessionHub.Caller.Clock
import SessionHub.Engine.Scripted
import SessionHub.Envelope.Call
import SessionHub.Main
import SessionHub.Network.Client
import SessionHub.Network.Connection
import SessionHub.Network.Handshake
import SessionHub.Proofs.Caller.Fate
import SessionHub.Proofs.Engine.Shift
import SessionHub.Proofs.Hub.Calls
import SessionHub.Proofs.Network.Replies
import SessionHub.Proofs.Network.Schedule
import SessionHub.Proofs.Network.Clients
import SessionHub.Proofs.Envelope.Members
import SessionHub.Proofs.Envelope.Spelling
import SessionHub.Proofs.Directory.History
import SessionHub.Proofs.Hub.Departure
import SessionHub.Proofs.Hub.Draining
import SessionHub.Proofs.Hub.Lifecycle
import SessionHub.Proofs.Hub.Panics
import SessionHub.Proofs.Caller.Keys
import SessionHub.Proofs.Caller.Slots
import SessionHub.Proofs.Caller.Arrivals
import SessionHub.Proofs.Caller.Termination
import SessionHub.Proofs.Caller.Sending
import SessionHub.Proofs.Caller.Frames
import SessionHub.Proofs.Envelope.Rewriting
import SessionHub.Proofs.Service.Run
import SessionHub.Proofs.Service.Texts
import SessionHub.Proofs.Hub.Register
import SessionHub.Proofs.Service.Places
import SessionHub.Proofs.Service.Ending
import SessionHub.Proofs.Service.Requests
import SessionHub.Proofs.Service.Answers
import SessionHub.Proofs.Engine.History
import SessionHub.Proofs.Network.Release
import SessionHub.Proofs.Envelope.Calls
import SessionHub.Proofs.Envelope.Identities
import SessionHub.Proofs.Directory.Numbers
import SessionHub.Proofs.Settings.Sources
