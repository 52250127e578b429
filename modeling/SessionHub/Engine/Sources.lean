import SessionHub.Engine.Basic
import SessionHub.Text.Blank

set_option autoImplicit false

/-! # The engine of named sources

This engine hosts sources by name. A request that is the name of a source, blanks at its ends
aside, is answered with the contents of the source, any other request with itself. Answers are
fixed when the request comes and given out by later polls, oldest first and a batch at a time. -/

namespace SessionHub

/-- The sources hosted and the answers that wait for a poll. -/
structure Sources where
  hosted : List (String × Bytes) := []
  queued : List Response := []
  deriving Repr

namespace Sources

/-- How many answers one poll gives out at most. -/
def batch : Nat := 64

/-- Hosts `contents` under `name`, in place of what was hosted under it. -/
def host (s : Sources) (name : String) (contents : Bytes) : Sources :=
  { s with hosted := (name, contents) :: s.hosted.filter (·.1 ≠ name) }

/-- The record of hosting a source. -/
def hosting (name : String) (contents : Bytes) : Record :=
  .sourceHosted name contents.length

/-- The names of the sources, in order. -/
def names (s : Sources) : List String :=
  (s.hosted.map (·.1)).mergeSort (· ≤ ·)

/-- The contents of the source that a request names. -/
def lookup? (s : Sources) (request : Bytes) : Option Bytes :=
  request.text?.bind fun name => s.hosted.lookup (Text.trim name)

/-- The answer to a request. -/
def answer (s : Sources) (request : Bytes) : Bytes :=
  (s.lookup? request).getD request

/-- Queues the answer to a request. -/
def request (s : Sources) (session : SessionId) (request : Bytes) :
    Outcome Sources (List Response) :=
  { state := { s with queued := s.queued ++ [⟨session, s.answer request⟩] }
    result := some []
    records := [.requestQueued session request.length] }

/-- Gives out the oldest answers. -/
def poll (s : Sources) : Outcome Sources (List Response) :=
  { state := { s with queued := s.queued.drop batch }
    result := some (s.queued.take batch) }

/-- Whether answers wait for a poll. -/
def hasPending (s : Sources) : Bool :=
  !s.queued.isEmpty

/-- Discards the answers that wait for a session. -/
def close (s : Sources) (session : SessionId) : Outcome Sources Unit :=
  let kept := s.queued.filter (·.session ≠ session)
  let dropped := s.queued.length - kept.length
  { state := { s with queued := kept }
    result := some ()
    records := if dropped = 0 then [] else [.responsesDiscarded session dropped] }

/-- The engine of named sources. -/
def engine : Engine Sources where
  request := request
  poll := poll
  hasPending s := some s.hasPending
  close := close

end Sources

end SessionHub
