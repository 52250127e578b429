import SessionHub.Decimal.Digits
import SessionHub.Engine.Sources
import SessionHub.Envelope.Decode

set_option autoImplicit false

/-! # Scripted engines

Engines for trying out a hub. They note each call, panic when they are told to, and can answer in
the name of a session. What they do otherwise is up to the script. -/

namespace SessionHub

/-- What a scripted engine does with a request. -/
inductive Script where
  /-- Answers from its sources. -/
  | sources
  /-- Gives the request back at once. -/
  | echo
  /-- Does nothing. -/
  | silent
  /-- Gives all requests back when it is polled, and never says that it has work left. -/
  | deferred
  /-- Gives a batch of requests back when it is polled. -/
  | trickle (batch : Nat)
  /-- Answers method calls, the later half of the answers first. -/
  | viewer
  deriving DecidableEq, Repr

/-- A call as it was noted. -/
inductive Entry where
  | request (session : SessionId) (bytes : Bytes)
  /-- How many responses a poll gave; none if it panicked. -/
  | poll (given : Option Nat)
  | close (session : SessionId)
  deriving DecidableEq, Repr

/-- An engine that follows a script. Notes are kept newest first. -/
structure Scripted where
  script : Script
  sources : Sources := {}
  queued : List Response := []
  /-- Whether the next poll panics. -/
  pollArmed : Bool := false
  /-- Whether the next close panics. -/
  closeArmed : Bool := false
  entries : List Entry := []

namespace Scripted

/-! ## Addressed requests -/

/-- Reads a session's number, with or without a plus sign. -/
def readSession? (bytes : Bytes) : Option SessionId :=
  match bytes.text?.bind fun text =>
    match text.toList with
    | '+' :: digits => Digits.read? digits
    | digits => Digits.read? digits
  with
  | some n => if n < UInt32.size then some ⟨n.toUInt32⟩ else none
  | none => none

/-- The session that a request is answered to, and the body. The request `to N rest` stands for the
    request `rest` of session `N`. -/
def address (sender : SessionId) (request : Bytes) : SessionId × Bytes :=
  match request with
  | 116 :: 111 :: 32 :: rest =>
    match rest.dropWhile (· ≠ 32), readSession? (rest.takeWhile (· ≠ 32)) with
    | _ :: body, some session => (session, body)
    | _, _ => (sender, request)
  | _ => (sender, request)

/-! ## The viewer -/

/-- The first argument of a call, or `failed` if there is none. -/
def firstArgument (call : MethodCall) : Json :=
  call.args.headD (.string "failed")

/-- What the viewer says to a call in the ordinary case. -/
def repeated (call : MethodCall) : Json :=
  .object [("args", .array call.args), ("method", .string call.method)]

/-- What the viewer answers to a call. -/
def viewerReplies (id : MessageId) (call : MethodCall) : List Bytes :=
  let ordinary := (Envelope.response (some id) (repeated call)).write
  match call.method with
  | "silent" => []
  | "garbage" => [Bytes.ofString "\x7boops"]
  | "fail" => [(Envelope.error (some id) (firstArgument call)).write]
  | "notify" => [(Envelope.response none (firstArgument call)).write]
  | "binary" => [(Envelope.binary (some id) [1, 2, 3]).write]
  | "dup" => [ordinary, (Envelope.response (some id) (.string "dup")).write]
  | _ => [ordinary]

/-- What the viewer answers to a request. -/
def viewerAnswers (body : Bytes) : List Bytes :=
  match Envelope.read body with
  | .ok (.viewerMethod (some id) call) => viewerReplies id call
  | _ => []

/-! ## Calls -/

/-- Notes a call. -/
def note (s : Scripted) (e : Entry) : Scripted :=
  { s with entries := e :: s.entries }

/-- Adds responses to the queue. -/
def enqueue (s : Scripted) (session : SessionId) (bodies : List Bytes) : Scripted :=
  { s with queued := s.queued ++ bodies.map fun body => ⟨session, body⟩ }

/-- Does what the script says to a request. -/
def follow (s : Scripted) (session : SessionId) (body : Bytes) :
    Outcome Scripted (List Response) :=
  match s.script with
  | .sources =>
    let o := s.sources.request session body
    { o with state := { s with sources := o.state } }
  | .echo => { state := s, result := some [⟨session, body⟩] }
  | .silent => { state := s, result := some [] }
  | .deferred | .trickle _ => { state := s.enqueue session [body], result := some [] }
  | .viewer => { state := s.enqueue session (viewerAnswers body), result := some [] }

/-- The requests that make the engine panic. -/
def panics : List Bytes :=
  ["panic-str", "panic-string", "panic-other"].map Bytes.ofString

/-- Takes a request. -/
def request (s : Scripted) (session : SessionId) (bytes : Bytes) :
    Outcome Scripted (List Response) :=
  let s := s.note (.request session bytes)
  if panics.contains bytes then { state := s, result := none }
  else if bytes = Bytes.ofString "arm-poll-panic" then
    { state := { s with pollArmed := true }, result := some [] }
  else if bytes = Bytes.ofString "arm-close-panic" then
    { state := { s with closeArmed := true }, result := some [] }
  else
    let (session, body) := address session bytes
    s.follow session body

/-- What a poll gives, and what the engine has afterwards. -/
def flush (s : Scripted) : Outcome Scripted (List Response) :=
  match s.script with
  | .sources =>
    let o := s.sources.poll
    { o with state := { s with sources := o.state } }
  | .echo | .silent => { state := s, result := some [] }
  | .deferred => { state := { s with queued := [] }, result := some s.queued }
  | .trickle batch =>
    { state := { s with queued := s.queued.drop batch }, result := some (s.queued.take batch) }
  | .viewer =>
    let half := s.queued.length / 2
    { state := { s with queued := s.queued.take half }, result := some (s.queued.drop half) }

/-- Works for one step. -/
def poll (s : Scripted) : Outcome Scripted (List Response) :=
  if s.pollArmed then
    { state := { s with pollArmed := false }.note (.poll none), result := none }
  else
    let o := s.flush
    { o with state := o.state.note (.poll (o.result.map List.length)) }

/-- Whether the engine says that it has work left. -/
def hasPending (s : Scripted) : Bool :=
  match s.script with
  | .sources => s.sources.hasPending
  | .echo | .silent | .deferred => false
  | .trickle _ | .viewer => !s.queued.isEmpty

/-- Releases what is held for a session, which only sources do. -/
def close (s : Scripted) (session : SessionId) : Outcome Scripted Unit :=
  let s := s.note (.close session)
  if s.closeArmed then { state := { s with closeArmed := false }, result := none }
  else
    match s.script with
    | .sources =>
      let o := s.sources.close session
      { o with state := { s with sources := o.state } }
    | _ => { state := s, result := some () }

/-- The engine that follows its script. -/
def engine : Engine Scripted where
  request := request
  poll := poll
  hasPending s := some s.hasPending
  close := close

end Scripted

end SessionHub
