import SessionHub.Command
import SessionHub.Envelope.Basic
import SessionHub.Log.Level

set_option autoImplicit false

/-! # Log records

Everything that is logged is one of these records. A record is data; its level, its message and its
fields are worded here and nowhere else. -/

namespace SessionHub

/-- What can be logged. -/
inductive Record where
  -- the hub
  | poolCreated (size : Nat)
  | hubStarting (mode : Mode)
  | hubStopped
  | commandDiscarded (command : Command)
  | requestFailed (session : SessionId)
  | pollFailed
  | closeFailed (session : SessionId)
  -- sessions and their directory
  | enrolled (session : SessionId) (live : Nat)
  | removed (session : SessionId)
  | removedUnknown (session : SessionId)
  | sessionClosed (session : SessionId)
  | unknownSession (session : SessionId) (length : Nat)
  | deliveryFailed (session : SessionId) (reason : String)
  -- the engine of named sources
  | sourceHosted (name : String) (length : Nat)
  | requestQueued (session : SessionId) (length : Nat)
  | responsesDiscarded (session : SessionId) (count : Nat)
  -- callers
  | callWithoutScheduler (method : String)
  | callIssued (id : MessageId) (method : String)
  | tooManyCalls (id : MessageId) (limit : Nat)
  | idReused (id : MessageId)
  | sendFailed (id : MessageId) (reason : String)
  | answersNothing (kind : Kind) (id : Option MessageId)
  | staleAnswer (id : MessageId)
  | unreadableMessage (reason : String)
  | nobodyWaiting (id : MessageId)
  | callTimedOut (id : MessageId)
  | callCancelled (id : MessageId)
  | callerTerminated (cancelled : Nat)
  | forwardingFinished (session : SessionId)
  -- sockets
  | socketOpened (session : SessionId)
  | socketClosedByPeer (session : SessionId)
  | socketFailed (reason : String)
  deriving DecidableEq, Repr

namespace Record

/-- The level of a record. -/
def level : Record → Level
  | poolCreated _ | hubStarting _ | hubStopped | sourceHosted .. | callerTerminated _ => .info
  | commandDiscarded _ | requestFailed _ | pollFailed | closeFailed _ | deliveryFailed ..
  | callWithoutScheduler _ | idReused _ => .error
  | unknownSession .. | tooManyCalls .. | sendFailed .. | staleAnswer _ | unreadableMessage _
  | socketFailed _ => .warn
  | requestQueued .. => .trace
  | _ => .debug

/-- The message of a record. -/
def message : Record → String
  | poolCreated _ => "created engine worker pool"
  | hubStarting _ => "engine loop starting"
  | hubStopped => "engine loop stopped"
  | commandDiscarded _ => "engine loop is not running, command discarded"
  | requestFailed _ => "engine failed handling request"
  | pollFailed => "engine poll failed"
  | closeFailed _ => "engine failed closing session"
  | enrolled .. => "registered session"
  | removed _ => "unregistered session"
  | removedUnknown _ => "unregister of unknown session ignored"
  | sessionClosed _ => "session closed"
  | unknownSession .. => "dropping message for unknown session"
  | deliveryFailed .. => "session delivery failed"
  | sourceHosted .. => "hosting data source"
  | requestQueued .. => "queued engine request"
  | responsesDiscarded .. => "discarded queued responses of closed session"
  | callWithoutScheduler _ => "no running runtime to host request"
  | callIssued .. => "issuing viewer request"
  | tooManyCalls .. => "too many pending requests, rejecting"
  | idReused _ => "correlation id reused while in flight"
  | sendFailed .. => "failed to send request"
  | answersNothing .. => "ignoring envelope that answers no request"
  | staleAnswer _ => "dropping stale response"
  | unreadableMessage _ => "dropping unparseable message"
  | nobodyWaiting _ => "caller stopped waiting before completion"
  | callTimedOut _ => "request timed out"
  | callCancelled _ => "cancelling pending request"
  | callerTerminated _ => "client terminated with pending requests"
  | forwardingFinished _ => "local client delivery loop finished"
  | socketOpened _ => "websocket connection established"
  | socketClosedByPeer _ => "client closed the connection"
  | socketFailed _ => "websocket connection ended with error"

/-- The wording of a call that panicked, in a record. -/
def panicked : String := "engine worker panicked"

/-- The fields of a record, in order. -/
def fields : Record → List (String × String)
  | poolCreated size => [("pool_size", toString size)]
  | hubStarting mode => [("mode", mode.describe)]
  | hubStopped => []
  | commandDiscarded command => [("command", command.describe)]
  | requestFailed session => [("session", session.display), ("error", panicked)]
  | pollFailed => [("error", panicked)]
  | closeFailed session => [("session", session.display), ("error", panicked)]
  | enrolled session live => [("session", session.display), ("live", toString live)]
  | removed session => [("session", session.display)]
  | removedUnknown session => [("session", session.display)]
  | sessionClosed session => [("session", session.display)]
  | unknownSession session length => [("session", session.display), ("len", toString length)]
  | deliveryFailed session reason => [("session", session.display), ("error", reason)]
  | sourceHosted name length => [("source", name), ("len", toString length)]
  | requestQueued session length => [("session", session.display), ("len", toString length)]
  | responsesDiscarded session count =>
    [("session", session.display), ("dropped", toString count)]
  | callWithoutScheduler method => [("method", method)]
  | callIssued id method => [("msg_id", id.display), ("method", method)]
  | tooManyCalls id limit => [("msg_id", id.display), ("max", toString limit)]
  | idReused id => [("msg_id", id.display)]
  | sendFailed id reason => [("msg_id", id.display), ("error", reason)]
  | answersNothing kind id => [("kind", kind.name), ("id", MessageId.describe? id)]
  | staleAnswer id => [("msg_id", id.display)]
  | unreadableMessage reason => [("error", reason)]
  | nobodyWaiting id => [("msg_id", id.display)]
  | callTimedOut id => [("msg_id", id.display)]
  | callCancelled id => [("msg_id", id.display)]
  | callerTerminated cancelled => [("cancelled", toString cancelled)]
  | forwardingFinished session => [("session", session.display)]
  | socketOpened session => [("session", session.display)]
  | socketClosedByPeer session => [("session", session.display)]
  | socketFailed reason => [("error", reason)]

end Record

end SessionHub
