import SessionHub.Hub.Driver
import SessionHub.Hub.Session
import SessionHub.Proofs.Run

set_option autoImplicit false

/-! # Runs of a hub

Between two steps of the driver commands may be sent, sessions opened and used, mailboxes read, and
the directory changed from outside. A run is any list of such moves and steps of the driver.

A run goes through sessions (`Move.isOrderly`) if requests, closings and changes of the directory
come from sessions only. -/

namespace SessionHub.Hub

variable {σ : Type}

/-- What can happen to a hub. -/
inductive Move where
  /-- The driver takes a step. -/
  | drive
  /-- A command is sent through a handle. -/
  | command (c : Command)
  | retain
  | letGo
  | openMailbox
  | request (k : Nat) (bytes : Bytes)
  | poll (k : Nat)
  | close (k : Nat)
  | drop (k : Nat)
  /-- The oldest delivery is taken from mailbox `k`. -/
  | read (k : Nat)
  /-- All deliveries are taken from mailbox `k`. -/
  | readAll (k : Nat)
  /-- The reader of mailbox `k` goes away. -/
  | leave (k : Nat)
  | enrol (callback : Callback)
  | strike (id : SessionId)
  /-- One other than the driver looks up the callback for a delivery. -/
  | beginDelivery (id : SessionId) (bytes : Bytes)
  /-- The callback of the `i`-th delivery that others have begun is run. -/
  | completeDelivery (i : Nat)
  | log (records : List Record)

/-- Whether a move makes no requests, closes no session and does not touch the directory, except by
    way of a session. -/
def Move.isOrderly : Move → Bool
  | .command (.request ..) | .command (.close _) => false
  | .enrol _ | .strike _ | .beginDelivery .. | .completeDelivery _ => false
  | _ => true

/-- The hub after a move. -/
def move (E : Engine σ) (h : Hub σ) : Move → Hub σ
  | .drive => h.step E
  | .command c => (h.send c).1
  | .retain => h.retain
  | .letGo => h.letGo
  | .openMailbox => h.openMailbox.1
  | .request k bytes => (h.request k bytes).1
  | .poll k => (h.poll k).1
  | .close k => h.close k
  | .drop k => h.drop k
  | .read k => ((h.read? k).map (·.2)).getD h
  | .readAll k => (h.readAll k).2
  | .leave k => h.leaveMailbox k
  | .enrol callback => (h.enrol callback).1
  | .strike id => (h.strike id).1
  | .beginDelivery id bytes => h.beginDelivery id bytes
  | .completeDelivery i => h.completeDelivery i
  | .log records => h.noteAll records

/-- The hub after a run. -/
def after (E : Engine σ) (h : Hub σ) (moves : List Move) : Hub σ :=
  Run.after (move E) h moves

/-! ## What can be seen of a run -/

/-- Whether a move opens a session. -/
def Move.opens : Move → Bool
  | .openMailbox => true
  | _ => false

/-- How many sessions a run opens. -/
def openings (moves : List Move) : Nat :=
  moves.countP Move.opens

/-- The request of session `k` that a move makes and that is accepted. -/
def Move.asked (k : Nat) (h : Hub σ) : Move → List Bytes
  | .request j bytes => if j = k ∧ (h.request k bytes).2.isOk then [bytes] else []
  | _ => []

/-- The requests of session `k` that were accepted in a run, in order. -/
def asked (E : Engine σ) (k : Nat) (h : Hub σ) (moves : List Move) : List Bytes :=
  Run.seen (move E) (fun h m => m.asked k h) h moves

/-- What a move takes out of mailbox `k`. What is in it when its reader goes away was delivered,
    though it is not read. -/
def Move.taken (k : Nat) (h : Hub σ) : Move → List Bytes
  | .read j => if j = k then (h.unread k).take 1 else []
  | .readAll j | .leave j => if j = k then h.unread k else []
  | _ => []

/-- All that was handed to mailbox `k` in a run, in order: what was taken out of it and what is in
    it at the end. -/
def handed (E : Engine σ) (k : Nat) (h : Hub σ) (moves : List Move) : List Bytes :=
  Run.seen (move E) (fun h m => m.taken k h) h moves ++ (after E h moves).unread k

end SessionHub.Hub
