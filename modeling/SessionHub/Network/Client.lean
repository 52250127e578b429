import SessionHub.Hub.Session
import SessionHub.Network.Basic

set_option autoImplicit false

/-! # Clients

A `Client` is a member that calls methods through the engine: its calls go out as requests of a
session of its own, and what is delivered to the session comes back to it as replies. The session
stays open for as long as `holders ≠ 0` or a call has still to be sent (`Caller.isNeeded`). -/

namespace SessionHub

/-- The role of a client. -/
structure Local where
  /-- Whether the session is still the client's. -/
  linked : Bool := true
  /-- Whether deliveries are still brought to the client. -/
  forwarding : Bool := true

/-- A client. -/
abbrev Client := Member Local

namespace Client

variable {σ : Type}

/-! ## Its steps -/

/-- How many steps there are to take: one for each delivery, and one at the end of all. -/
def backlog (h : Hub σ) (c : Client) : Nat :=
  if c.role.forwarding then
    (h.unread c.mailbox).length + if h.isCutOff c.mailbox then 1 else 0
  else 0

/-- Brings no more deliveries to the client. -/
def endForwarding (h : Hub σ) (c : Client) : Hub σ × Client :=
  let records := (h.sessions[c.session]?.map fun s => Record.forwardingFinished s.id).toList
  ((h.leaveMailbox c.mailbox).noteAll records, { c with role.forwarding := false })

/-- Brings a delivery to the client, if it is still held. -/
def forward (h : Hub σ) (c : Client) : Hub σ × Client :=
  if !c.role.forwarding then (h, c)
  else
    match h.read? c.mailbox with
    | some (bytes, h) =>
      if c.caller.holders = 0 then c.endForwarding h
      else
        let (caller, _, records) := c.caller.receive bytes
        (h.noteAll records, { c with caller })
    | none => if h.isCutOff c.mailbox then c.endForwarding h else (h, c)

/-- Carries out the send at place `i`. Sends are tasks of their own, in whatever order they are
    run. -/
def sendAt (i : Nat) (h : Hub σ) (c : Client) : Hub σ × Client :=
  match c.caller.sends[i]? with
  | none => (h, c)
  | some send =>
    let caller := { c.caller with sends := c.caller.sends.eraseIdx i }
    let (h, result) := h.sendPayload c.session send.payload
    let (caller, records) := caller.sendEnded send.id result
    (h.noteAll records, { c with caller })

/-- Carries out the oldest send, which is the last of the list. -/
def send (h : Hub σ) (c : Client) : Hub σ × Client :=
  c.sendAt (c.caller.sends.length - 1) h

/-- Drops the session when it is not needed any more. -/
def tidy (h : Hub σ) (c : Client) : Hub σ × Client :=
  if c.role.linked && c.caller.holders = 0 && c.caller.sends.isEmpty then
    (h.drop c.session, { c with role.linked := false })
  else (h, c)

/-- What clients do. -/
def conduct : Conduct σ Local where
  backlog := backlog
  serve := forward
  send := send
  tidy := tidy

end Client

/-! ## What is done with clients -/

namespace Network

variable {σ : Type}

/-- Connects a client, if there is something to run its tasks. -/
def connect (n : Network σ Local) (scheduled : Bool) : Network σ Local × Except CallError Nat :=
  if scheduled then
    let k := n.members.size
    let (hub, session, mailbox) := n.hub.openMailbox
    let members := n.members.push { session, mailbox, role := {} }
    ({ n with hub, members }.line (.serve k), .ok k)
  else (n, .error .noScheduler)

/-- Drops one holder of client `k`. -/
def dropClient (n : Network σ Local) (k : Nat) : Network σ Local :=
  let (n, _) := n.changeCaller k fun c => let (c, records) := c.letGo; (c, (), records)
  n.act k Client.tidy

end Network

end SessionHub
