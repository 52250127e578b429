import SessionHub.Hub.Session
import SessionHub.Network.Basic

set_option autoImplicit false

/-! # Connections

A connection is a member with a peer at the other end of a socket. Binary frames of the peer are
requests of the connection's session, and what is delivered to the session goes back in binary
frames. Calls go out in text frames, and text frames of the peer are their replies. The loop of a
connection serves deliveries first, then calls, and then what the peer sends. When it ends, for
whatever reason, the caller is terminated and the session is closed. -/

namespace SessionHub

/-- What comes in from a peer. A message is one frame. -/
inductive Arrival where
  | binary (bytes : Bytes)
  | text (bytes : Bytes)
  | ping (bytes : Bytes)
  | pong (bytes : Bytes)
  | close
  /-- Nothing more comes in. -/
  | ended
  /-- Reading failed. -/
  | failed (reason : String)
  deriving DecidableEq, Repr

/-- How many bytes come in with something. -/
def Arrival.size : Arrival → Nat
  | .binary bytes | .text bytes | .ping bytes | .pong bytes => bytes.length
  | .close | .ended | .failed _ => 0

/-- What goes out to a peer. -/
inductive Frame where
  | binary (bytes : Bytes)
  | text (bytes : Bytes)
  | pong (bytes : Bytes)
  | close
  deriving DecidableEq, Repr

/-- The frame that a payload goes out in. -/
def Payload.frame : Payload → Frame
  | .binary bytes => .binary bytes
  | .text e => .text e.write

/-- The role of a connection. Frames that went out are kept newest first. -/
structure Socket where
  /-- Whether the loop runs. -/
  looping : Bool := true
  /-- What has still to go out, oldest first. -/
  outbound : List Payload := []
  /-- What came in and was not read yet, oldest first. -/
  inbound : List Arrival := []
  written : List Frame := []
  /-- Why nothing can be written any more, if so. -/
  unwritable : Option String := none

/-- A connection. -/
abbrev Connection := Member Socket

namespace Connection

variable {σ : Type}

/-- How many bytes a frame may have. Each `Arrival` stands for a message of one frame: messages in
    several frames, whose limit is four times as large, are not modelled, so that a message over
    `frameLimit` always fails here. -/
def frameLimit : Nat := 16777216

/-- Why a longer frame cannot be read. -/
def frameTooLong (size : Nat) : String :=
  "Space limit exceeded: Message too long: " ++ toString size ++ " > " ++ toString frameLimit

/-- How many bytes a ping may have. -/
def pingLimit : Nat := 125

/-- Why a longer ping cannot be read. -/
def pingTooLong : String :=
  "WebSocket protocol error: Control frame too big (payload must be 125 bytes or less)"

/-- Why a connection cannot be read from when the peer has vanished. -/
def vanished : String :=
  "WebSocket protocol error: Connection reset without closing handshake"

/-! ## Writing -/

/-- Writes a frame. -/
def write (c : Connection) (f : Frame) : Connection × Except String Unit :=
  match c.role.unwritable with
  | some reason => (c, .error reason)
  | none => ({ c with role.written := f :: c.role.written }, .ok ())

/-- The identity of the session. -/
def sessionId (h : Hub σ) (c : Connection) : SessionId :=
  (h.sessions[c.session]?.map (·.id)).getD default

/-! ## The end -/

/-- Ends the loop. -/
def finish (h : Hub σ) (c : Connection) (result : Except String Unit) : Hub σ × Connection :=
  let (caller, _, records) := c.caller.terminate
  let h := (h.noteAll records).close c.session
  let (c, _) := Connection.write { c with caller } .close
  let (caller, records) := c.caller.letGo
  let h := ((h.noteAll records).drop c.session).leaveMailbox c.mailbox
  let h := match result with
    | .ok () => h
    | .error reason => h.note (.socketFailed reason)
  (h, { c with caller, role.looping := false, role.outbound := [], role.inbound := [] })

/-- Goes on if what was just done succeeded, and else ends the loop. -/
def goOn (h : Hub σ) (c : Connection) : Except String Unit → Hub σ × Connection
  | .ok () => (h, c)
  | .error reason => c.finish h (.error reason)

/-- Writes a frame and goes on if that succeeded. -/
def writeOn (h : Hub σ) (c : Connection) (f : Frame) : Hub σ × Connection :=
  let (c, result) := c.write f
  c.goOn h result

/-! ## What comes in -/

/-- Sends a request of the peer to the engine, and lets it work. -/
def request (h : Hub σ) (c : Connection) (bytes : Bytes) : Hub σ × Connection :=
  match h.request c.session bytes with
  | (h, .error e) => c.finish h (.error e.message)
  | (h, .ok ()) =>
    match h.poll c.session with
    | (h, .error e) => c.finish h (.error e.message)
    | (h, .ok ()) => (h, c)

/-- Does what something that came in asks for. A message over `frameLimit` is an error, for it comes
    in one frame. -/
def handle (h : Hub σ) (c : Connection) (a : Arrival) : Hub σ × Connection :=
  if frameLimit < a.size then c.finish h (.error (frameTooLong a.size))
  else match a with
    | .binary bytes => c.request h bytes
    | .text bytes =>
      let (caller, _, records) := c.caller.receive bytes
      (h.noteAll records, { c with caller })
    | .ping bytes =>
      if pingLimit < bytes.length then c.finish h (.error pingTooLong)
      else
        let (c, _) := c.write (.pong bytes)
        (h, c)
    | .pong _ => (h, c)
    | .close | .ended => c.finish (h.note (.socketClosedByPeer (c.sessionId h))) (.ok ())
    | .failed reason => c.finish h (.error reason)

/-! ## Its steps -/

/-- How many steps there are to take. -/
def backlog (h : Hub σ) (c : Connection) : Nat :=
  if c.role.looping then
    (h.unread c.mailbox).length + (if h.isCutOff c.mailbox then 1 else 0)
      + c.role.outbound.length + c.role.inbound.length
  else 0

/-- A turn of the loop. -/
def serve (h : Hub σ) (c : Connection) : Hub σ × Connection :=
  if !c.role.looping then (h, c)
  else
    match h.read? c.mailbox, c.role.outbound, c.role.inbound with
    | some (bytes, h), _, _ => c.writeOn h (.binary bytes)
    | none, outbound, inbound =>
      if h.isCutOff c.mailbox then c.finish h (.ok ())
      else match outbound, inbound with
        | p :: outbound, _ => writeOn h { c with role.outbound := outbound } p.frame
        | [], a :: inbound => handle h { c with role.inbound := inbound } a
        | [], [] => (h, c)

/-- Puts the send at place `i` before the loop. Sends are tasks of their own, in whatever order they
    are run. -/
def sendAt (i : Nat) (h : Hub σ) (c : Connection) : Hub σ × Connection :=
  match c.caller.sends[i]? with
  | none => (h, c)
  | some send =>
    let caller := { c.caller with sends := c.caller.sends.eraseIdx i }
    if c.role.looping then
      (h, { c with caller, role.outbound := c.role.outbound ++ [send.payload] })
    else
      let (caller, records) := caller.sendEnded send.id (.error .closed)
      (h.noteAll records, { c with caller })

/-- Puts the oldest send before the loop, which is the last of the list. -/
def send (h : Hub σ) (c : Connection) : Hub σ × Connection :=
  c.sendAt (c.caller.sends.length - 1) h

/-- What connections do. -/
def conduct : Conduct σ Socket where
  backlog := backlog
  serve := serve
  send := send
  tidy h c := (h, c)

end Connection

/-! ## What is done with connections -/

namespace Network

variable {σ : Type}

/-- Accepts a connection. If it is `shared`, there is another holder of its caller. -/
def accept (n : Network σ Socket) (shared : Bool) : Network σ Socket × Nat :=
  let k := n.members.size
  let (hub, session, mailbox) := n.hub.openMailbox
  let c : Connection :=
    { caller := { holders := if shared then 2 else 1 }, session, mailbox, role := {} }
  let hub := hub.note (.socketOpened (c.sessionId hub))
  ({ n with hub, members := n.members.push c }.line (.serve k), k)

/-- Brings in what the peer of connection `k` sends. -/
def bring (n : Network σ Socket) (k : Nat) (a : Arrival) : Network σ Socket :=
  n.act k fun h c => (h, { c with role.inbound := c.role.inbound ++ [a] })

/-- Has the peer of connection `k` vanish. -/
def vanish (n : Network σ Socket) (k : Nat) : Network σ Socket :=
  n.act k fun h c =>
    (h, { c with
      role.inbound := c.role.inbound ++ [.failed Connection.vanished]
      role.unwritable := some Connection.vanished })

/-- Takes out what was written to the peer of connection `k`. -/
def takeWritten (n : Network σ Socket) (k : Nat) : List Frame × Network σ Socket :=
  ((n.members[k]?.map (·.role.written.reverse)).getD [],
    n.act k fun h c => (h, { c with role.written := [] }))

/-- Drops one holder of the caller of connection `k`. -/
def dropCaller (n : Network σ Socket) (k : Nat) : Network σ Socket :=
  (n.changeCaller k fun c => let (c, records) := c.letGo; (c, (), records)).1

end Network

end SessionHub
