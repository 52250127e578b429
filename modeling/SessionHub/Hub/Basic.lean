import SessionHub.Directory
import SessionHub.Engine.Basic

set_option autoImplicit false

/-! # The hub

A `Hub` shares one engine among many sessions. Sessions put commands into `queue`; the driver takes
them out one by one, calls the engine, and hands each response to the session that it is for, by
way of `directory`. Only the driver calls the engine.

This file has the state of a hub and what can be done to it from outside. -/

namespace SessionHub

/-- Why a hub does not do what it is asked to. -/
inductive HubError where
  /-- The driver has stopped. -/
  | notRunning
  /-- The session was closed. -/
  | closed
  /-- A call of the engine panicked. -/
  | panicked
  deriving DecidableEq, Repr

/-- The wording of an error. -/
def HubError.message : HubError → String
  | notRunning => "engine loop is not running"
  | closed => "session is closed"
  | panicked => "engine worker panicked"

/-- How a session is reached. -/
inductive Callback where
  /-- By a mailbox. -/
  | mailbox (k : Nat)
  /-- Not at all: each delivery fails. -/
  | failing (error : DeliveryError)
  deriving DecidableEq, Repr

/-- The deliveries that have not been received yet, oldest first, and whether there is a
    receiver. -/
structure Mailbox where
  unread : List Bytes := []
  /-- Whether the reader is still there. -/
  attended : Bool := true
  deriving Repr

/-- A delivery whose callback was looked up and is still to be run. The callback is `found` as the
    directory had it then: by the time it is run, the session may have left the directory. -/
structure Delivery where
  found : Option Callback
  session : SessionId
  bytes : Bytes
  deriving DecidableEq, Repr

/-- A session, as its owner holds it. -/
structure Session where
  id : SessionId
  closed : Bool := false
  deriving DecidableEq, Repr

/-- What the driver is about to do. -/
inductive Phase where
  | starting
  /-- To take the next command. -/
  | ready
  /-- To wait for a call that it has made. -/
  | calling (call : Invocation)
  /-- To look up the callback for the first of the responses that a call gave. -/
  | routing (rest : List Response)
  /-- To run the callback that it has looked up, and then to hand out the other responses. -/
  | delivering (d : Delivery) (rest : List Response)
  | stopped
  /-- Nothing ever again: a call panicked on the driver itself. -/
  | broken
  deriving DecidableEq, Repr

/-- A hub whose engine has states `σ`. Records are kept newest first. -/
structure Hub (σ : Type) where
  engine : σ
  mode : Mode := .cooperative
  phase : Phase := .starting
  queue : List Command := []
  /-- Whether the driver polls the engine when it finds no command. -/
  pollScheduled : Bool := false
  /-- How many can still send commands. -/
  handles : Nat := 1
  directory : Directory Callback := {}
  /-- The deliveries that others than the driver have begun. -/
  deliveries : List Delivery := []
  mailboxes : Array Mailbox := #[]
  sessions : Array Session := #[]
  log : List Record := []

namespace Hub

variable {σ : Type}

/-! ## Records -/

/-- Logs a record. -/
def note (h : Hub σ) (r : Record) : Hub σ :=
  { h with log := r :: h.log }

/-- Logs records, in order. -/
def noteAll (h : Hub σ) (rs : List Record) : Hub σ :=
  { h with log := rs.reverse ++ h.log }

/-! ## Commands -/

/-- Whether commands are still taken in. -/
def isRunning (h : Hub σ) : Bool :=
  match h.phase with
  | .stopped | .broken => false
  | _ => true

/-- Puts a command into the queue. -/
def send (h : Hub σ) (command : Command) : Hub σ × Except HubError Unit :=
  if h.isRunning then ({ h with queue := h.queue ++ [command] }, .ok ())
  else (h.note (.commandDiscarded command), .error .notRunning)

/-- Lets one more send commands. -/
def retain (h : Hub σ) : Hub σ :=
  { h with handles := h.handles + 1 }

/-- Lets one less send commands. -/
def letGo (h : Hub σ) : Hub σ :=
  { h with handles := h.handles - 1 }

/-! ## Mailboxes -/

/-- Runs a callback. -/
def call (callback : Callback) (bytes : Bytes) (h : Hub σ) : Hub σ × Except DeliveryError Unit :=
  match callback with
  | .failing e => (h, .error e)
  | .mailbox k =>
    if h.mailboxes[k]?.any (·.attended) then
      let receive (m : Mailbox) : Mailbox := { m with unread := m.unread ++ [bytes] }
      ({ h with mailboxes := h.mailboxes.modify k receive }, .ok ())
    else (h, .error .closed)

/-- Looks up the callback that `bytes` for a session are to be handed to. -/
def lookUp (h : Hub σ) (id : SessionId) (bytes : Bytes) : Delivery :=
  { found := h.directory.callback? id, session := id, bytes }

/-- Runs the callback of a delivery, whatever became of the session since it was looked up. -/
def handOver (h : Hub σ) (d : Delivery) : Hub σ × Except RoutingError Unit :=
  let (h, result, records) := Directory.handOver Hub.call h d.found d.session d.bytes
  (h.noteAll records, result)

/-- Begins a delivery: its callback is looked up. -/
def beginDelivery (h : Hub σ) (id : SessionId) (bytes : Bytes) : Hub σ :=
  { h with deliveries := h.deliveries ++ [h.lookUp id bytes] }

/-- Completes the `i`-th of the deliveries that were begun: its callback is run. -/
def completeDelivery (h : Hub σ) (i : Nat) : Hub σ :=
  match h.deliveries[i]? with
  | none => h
  | some d => ({ h with deliveries := h.deliveries.eraseIdx i }.handOver d).1

/-- All deliveries that were begun and are not completed, that of the driver included. -/
def inFlight (h : Hub σ) : List Delivery :=
  match h.phase with
  | .delivering d _ => d :: h.deliveries
  | _ => h.deliveries

/-- What waits in mailbox `k`. -/
def unread (h : Hub σ) (k : Nat) : List Bytes :=
  (h.mailboxes[k]?.map (·.unread)).getD []

/-- Whether nothing will ever come into mailbox `k` again: neither the directory nor a delivery that
    was begun leads to it. -/
def isCutOff (h : Hub σ) (k : Nat) : Bool :=
  (h.directory.entries.all fun e => e.2 ≠ .mailbox k) &&
    h.inFlight.all fun d => d.found ≠ some (.mailbox k)

/-- Takes the oldest delivery from mailbox `k`. -/
def read? (h : Hub σ) (k : Nat) : Option (Bytes × Hub σ) :=
  match h.unread k with
  | [] => none
  | bytes :: rest =>
    some (bytes, { h with mailboxes := h.mailboxes.modify k fun m => { m with unread := rest } })

/-- Takes all deliveries from mailbox `k`. -/
def readAll (h : Hub σ) (k : Nat) : List Bytes × Hub σ :=
  (h.unread k, { h with mailboxes := h.mailboxes.modify k fun m => { m with unread := [] } })

/-- Leaves mailbox `k` for good, and whatever is in it. -/
def leaveMailbox (h : Hub σ) (k : Nat) : Hub σ :=
  { h with mailboxes := h.mailboxes.modify k fun _ => { unread := [], attended := false } }

/-! ## The directory -/

/-- Enrols a callback. -/
def enrol (h : Hub σ) (callback : Callback) : Hub σ × SessionId :=
  let id := h.directory.nextId
  let directory := h.directory.enrol callback
  ({ h with directory }.note (directory.enrolment id), id)

/-- Strikes a session off. The answer says whether it was there. -/
def strike (h : Hub σ) (id : SessionId) : Hub σ × Bool :=
  ({ h with directory := h.directory.remove id }.note (h.directory.removal id),
    h.directory.contains id)

end Hub

end SessionHub
