import SessionHub.Caller.Basic
import SessionHub.Hub.Driver

set_option autoImplicit false

/-! # Networks

A network is a hub with members. A member is a caller with a session of its own. It has a task,
which serves it, and sends, which carry its calls out. A step of a member changes the hub and that
member, and no other member.

The steps of a network are those of the driver and those of its members, in any order. `settle`
takes them in one particular order: tasks have their turns in the order in which they got something
to do. A task that has taken many steps in its turn gives way, and so does the driver after each
call that it makes itself. Tasks that gave way are called back when no other is in line, or after a
round of turns, the last one first. After them comes the driver if it has still to start
or if workers make a call for it; but many others do not keep it from starting. -/

namespace SessionHub

/-- What can have a turn. -/
inductive Actor where
  | driver
  /-- The oldest send of a member. -/
  | send (k : Nat)
  /-- What serves a member. -/
  | serve (k : Nat)
  deriving DecidableEq, Repr

/-- A member. What else there is to know about it depends on its role. -/
structure Member (ρ : Type) where
  caller : Caller := {}
  /-- Its session. -/
  session : Nat
  /-- The mailbox of the session. -/
  mailbox : Nat
  role : ρ

/-- What members of one role do, in a hub whose engine has states `σ`. -/
structure Conduct (σ ρ : Type) where
  /-- How many steps there are to take for a member. -/
  backlog : Hub σ → Member ρ → Nat
  /-- Takes one of them. -/
  serve : Hub σ → Member ρ → Hub σ × Member ρ
  /-- Carries out the oldest send. -/
  send : Hub σ → Member ρ → Hub σ × Member ρ
  /-- Gives back what the member does not need any more. -/
  tidy : Hub σ → Member ρ → Hub σ × Member ρ

/-- A hub and its members. -/
structure Network (σ ρ : Type) where
  hub : Hub σ
  members : Array (Member ρ) := #[]
  /-- The tasks that have something to do, in the order of their turns. -/
  ready : List Actor := []
  /-- The tasks that gave way, the last one first. -/
  yielded : List Actor := []
  /-- Whether the driver goes on when no task is in line. -/
  resting : Bool := true
  /-- How many turns there were since the tasks in `yielded` were called back. -/
  turns : Nat := 0

namespace Network

variable {σ ρ : Type} (E : Engine σ) (C : Conduct σ ρ)

/-! ## Steps -/

/-- Takes a step of the driver. -/
def drive (n : Network σ ρ) : Network σ ρ :=
  { n with hub := n.hub.step E }

/-- Takes a step of member `k`. -/
def act (n : Network σ ρ) (k : Nat) (step : Hub σ → Member ρ → Hub σ × Member ρ) : Network σ ρ :=
  match n.members[k]? with
  | none => n
  | some m =>
    let (hub, m) := step n.hub m
    { n with hub, members := n.members.set! k m }

/-- Changes the caller of member `k`. The answer is that of the change. -/
def changeCaller {α : Type} (n : Network σ ρ) (k : Nat)
    (change : Caller → Caller × α × List Record) : Network σ ρ × Option α :=
  match n.members[k]? with
  | none => (n, none)
  | some m =>
    let (caller, a, records) := change m.caller
    ({ n with
        hub := n.hub.noteAll records
        members := n.members.set! k { m with caller } },
      some a)

/-! ## What is ready -/

/-- Puts a task last. -/
def line (n : Network σ ρ) (t : Actor) : Network σ ρ :=
  { n with ready := n.ready ++ [t] }

/-- Puts a task last unless it will have a turn anyway. -/
def wake (n : Network σ ρ) (t : Actor) : Network σ ρ :=
  if n.ready.contains t || n.yielded.contains t then n else n.line t

/-- Has a task give way. -/
def giveWay (n : Network σ ρ) (t : Actor) : Network σ ρ :=
  { n with yielded := t :: n.yielded }

/-- Wakes the members for which there is something to do. -/
def wakeMembers (n : Network σ ρ) : Network σ ρ :=
  n.members.size.fold
    (fun k h w => if C.backlog n.hub n.members[k] = 0 then w else w.wake (.serve k)) n

/-- Issues a call of member `k`, whose send then gets in line. -/
def call (n : Network σ ρ) (k : Nat) (method : String) (args : List Json)
    (named : List (String × Json)) : Network σ ρ × Option (Except CallError Nat) :=
  match n.changeCaller k fun c => c.issue true method args named with
  | (n, some (.ok ticket)) => (n.line (.send k), some (.ok ticket))
  | r => r

/-- Whether the driver waits for a command and need not wait any longer. -/
def driverCalled (n : Network σ ρ) : Bool :=
  !n.resting && n.hub.phase = .ready && !n.hub.isBlocked

/-- Wakes all that have something to do now. -/
def wakeAll (n : Network σ ρ) : Network σ ρ :=
  let n := n.wakeMembers C
  if n.driverCalled then n.wake .driver else n

/-! ## Turns -/

/-- Hands out the responses of a call, each in the two steps that it takes. -/
def routeAll (n : Network σ ρ) : Network σ ρ :=
  match n.hub.phase with
  | .routing rest => rest.length.fold (fun _ _ n => ((n.drive E).drive E).wakeMembers C) n
  | _ => n

/-- Lets the driver take a command and make the call. Workers that make it take their time. -/
def proceed (n : Network σ ρ) : Network σ ρ :=
  let n := n.drive E
  match n.hub.phase, n.hub.mode with
  | .calling _, .pool _ => { n with resting := true }
  | .calling _, .cooperative =>
    let n := (n.drive E).routeAll E C
    if n.hub.isRunning then n.giveWay .driver else n
  | _, _ => n

/-- A turn of the driver. -/
def driverTurn (n : Network σ ρ) : Network σ ρ :=
  match n.hub.phase with
  | .starting => (n.drive E).proceed E C
  | .calling _ => ((n.drive E).routeAll E C).proceed E C
  | _ => n.proceed E C

/-- How many steps a member takes in a turn at most. -/
def turnLength : Nat := 128

/-- Takes the steps of a turn of member `k`. -/
def serve (n : Network σ ρ) (k : Nat) : Network σ ρ :=
  match n.members[k]? with
  | none => n
  | some m =>
    let steps := min (C.backlog n.hub m) turnLength
    let n := steps.fold (fun _ _ n => n.act k C.serve) n
    (if steps = turnLength then n.giveWay (.serve k) else n).wakeAll C

/-- A turn of a task. -/
def turn (n : Network σ ρ) : Actor → Network σ ρ
  | .driver => n.driverTurn E C
  | .send k => (((n.act k C.send).wakeAll C).act k C.tidy).wakeAll C
  | .serve k => n.serve C k

/-- How many turns there are in a round. -/
def roundLength : Nat := 61

/-- Puts the tasks that gave way in line, at the end of a round or if no other is in line. -/
def callBack (n : Network σ ρ) : Network σ ρ :=
  if n.ready.isEmpty || n.turns = roundLength then
    { n with ready := n.ready ++ n.yielded, yielded := [], turns := 0 }
  else n

/-- How many others have a turn at most before the driver starts. -/
def patience : Nat := 30

/-- Whether the driver has waited long enough to start. -/
def startIsDue (n : Network σ ρ) : Bool :=
  n.resting && n.hub.phase = .starting && n.turns = patience

/-- Whose turn it is, and what is then left. -/
def next? (n : Network σ ρ) : Option (Actor × Network σ ρ) :=
  let rested := { n with resting := false, turns := n.turns + 1 }
  if n.startIsDue then some (.driver, rested)
  else
    match n.ready with
    | t :: ready => some (t, { n with ready, turns := n.turns + 1 })
    | [] => if n.resting then some (.driver, rested) else none

/-- Gives turns until none is left to give, at most `fuel` of them. -/
def settle : Nat → Network σ ρ → Network σ ρ
  | 0, n => n
  | fuel + 1, n =>
    let n := n.callBack
    match n.next? with
    | none => n
    | some (t, n) => settle fuel (n.turn E C t)

end Network

end SessionHub
