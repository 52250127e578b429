import SessionHub.Engine.Crew
import SessionHub.Hub.Basic

set_option autoImplicit false

/-! # The driver

The driver goes from step to step: it starts, takes a command, waits for the engine, hands out what
the engine gave, and takes the next command. A response is handed out in two steps: in the first its
callback is looked up in the directory, in the second the callback is run. Between two steps
anything can be done to the hub from outside; a session that is closed after the first of them is
still reached by the second.

Commands in the queue go before the poll that the driver has scheduled for itself, and at most one
such poll is scheduled. The driver stops on `shutdown`, or when `handles = 0` and the queue is
empty. -/

namespace SessionHub.Hub

variable {σ : Type} (E : Engine σ)

/-- Starts the driver. -/
def start (h : Hub σ) : Hub σ :=
  let h := match h.mode with
    | .cooperative => h
    | .pool workers => h.note (.poolCreated workers.val)
  { h with phase := .ready }.note (.hubStarting h.mode)

/-- Stops the driver. Commands that are still in the queue are dropped. -/
def stop (h : Hub σ) : Hub σ :=
  { h with phase := .stopped, queue := [] }.note .hubStopped

/-- Carries out a command. -/
def carryOut (h : Hub σ) : Command → Hub σ
  | .request session bytes => { h with phase := .calling (.request session bytes) }
  | .poll => { h with phase := .calling .poll, pollScheduled := false }
  | .close session => { h with phase := .calling (.close session) }
  | .shutdown => h.stop

/-- Whether the driver finds nothing to do and waits for a command. -/
def isBlocked (h : Hub σ) : Bool :=
  h.queue.isEmpty && 0 < h.handles && !h.pollScheduled

/-- Takes the next command and carries it out, if there is one. -/
def take (h : Hub σ) : Hub σ :=
  match h.queue with
  | command :: queue => { h with queue }.carryOut command
  | [] => if h.handles = 0 then h.stop else if h.pollScheduled then h.carryOut .poll else h

/-- Makes a call as the mode says. -/
def invoke (h : Hub σ) (call : Invocation) : Outcome σ Answer :=
  match h.mode with
  | .cooperative => E.invoke h.engine call
  | .pool workers => Crew.call E workers h.engine call

/-- The record of a call that panicked. -/
def failure : Invocation → Record
  | .request session _ => .requestFailed session
  | .poll => .pollFailed
  | .close session => .closeFailed session

/-- Goes on after a call that panicked. A request has still to be followed by a poll. -/
def recover (h : Hub σ) (call : Invocation) : Hub σ :=
  match call with
  | .request .. => { h with phase := .ready, pollScheduled := true }.note (failure call)
  | _ => { h with phase := .ready }.note (failure call)

/-- Goes on after a call that gave an answer. -/
def accept (h : Hub σ) (answer : Answer) : Hub σ :=
  { h with
    phase := if answer.responses.isEmpty then .ready else .routing answer.responses
    pollScheduled := answer.again.getD h.pollScheduled }

/-- Lets a call come back. If it panicked on the driver itself, that is the end of the driver. -/
def finish (h : Hub σ) (call : Invocation) : Hub σ :=
  let o := h.invoke E call
  let h := { h with engine := o.state }.noteAll o.records
  match o.result, h.mode with
  | some answer, _ => h.accept answer
  | none, .pool _ => h.recover call
  | none, .cooperative => { h with phase := .broken, queue := [] }

/-- Looks up the callback for the first of some responses. -/
def route (h : Hub σ) : List Response → Hub σ
  | [] => { h with phase := .ready }
  | r :: rest => { h with phase := .delivering (h.lookUp r.session r.bytes) rest }

/-- Runs the callback that was looked up for a response. What becomes of it is only logged. -/
def pass (h : Hub σ) (d : Delivery) (rest : List Response) : Hub σ :=
  let (h, _) := h.handOver d
  { h with phase := if rest.isEmpty then .ready else .routing rest }

/-- A step of the driver. -/
def step (h : Hub σ) : Hub σ :=
  match h.phase with
  | .starting => h.start
  | .ready => h.take
  | .calling call => h.finish E call
  | .routing rest => h.route rest
  | .delivering d rest => h.pass d rest
  | .stopped | .broken => h

/-- Whether the driver has nothing to do. -/
def isIdle (h : Hub σ) : Bool :=
  match h.phase with
  | .ready => h.isBlocked
  | .stopped | .broken => true
  | _ => false

/-- Takes steps until the driver has nothing to do, at most `fuel` of them. -/
def run : Nat → Hub σ → Hub σ
  | 0, h => h
  | fuel + 1, h => if h.isIdle then h else run fuel (h.step E)

/-- A driver that has nothing to do stays as it is. -/
theorem step_eq_self {h : Hub σ} (idle : h.isIdle) : h.step E = h := by
  unfold isIdle at idle
  unfold step
  split at idle <;> rename_i phase <;> simp_all [take, isBlocked]
  omega

end SessionHub.Hub
