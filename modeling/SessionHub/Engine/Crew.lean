import SessionHub.Command
import SessionHub.Engine.Basic

set_option autoImplicit false

/-! # Calling an engine through workers

A crew is a fixed number of workers and a line in which jobs wait. The line is as long as the crew
is large. A job is a call of the engine, which all workers share. The result of a call is left in
`result` for the driver to fetch; a call that panicked leaves no answer, and its worker goes on. -/

namespace SessionHub

/-- What a worker does. -/
inductive Worker where
  | idle
  | busy (job : Invocation)
  /-- It has left, since the crew was dismissed. -/
  | gone
  deriving DecidableEq, Repr

/-- A crew and the engine that it calls. -/
structure Crew (σ : Type) where
  engine : σ
  size : WorkerCount
  workers : List Worker
  jobs : List Invocation := []
  /-- What the last job came to, until it is fetched. -/
  result : Option (Option Answer) := none
  dismissed : Bool := false
  /-- What the calls logged, in order. -/
  records : List Record := []

namespace Crew

variable {σ : Type} (E : Engine σ)

/-- A crew whose workers are all idle. -/
def assemble (engine : σ) (size : WorkerCount) : Crew σ :=
  { engine, size, workers := List.replicate size.val .idle }

/-- Orders a job, unless the line is full. -/
def order (c : Crew σ) (job : Invocation) : Option (Crew σ) :=
  if c.jobs.length < c.size.val then some { c with jobs := c.jobs ++ [job] } else none

/-- Worker `i` takes the first job, if it is idle. -/
def take (c : Crew σ) (i : Nat) : Crew σ :=
  match c.workers[i]?, c.jobs with
  | some .idle, job :: jobs => { c with workers := c.workers.set i (.busy job), jobs }
  | _, _ => c

/-- Worker `i` makes the call that it has taken. -/
def work (c : Crew σ) (i : Nat) : Crew σ :=
  match c.workers[i]? with
  | some (.busy job) =>
    let o := E.invoke c.engine job
    { c with
      engine := o.state
      workers := c.workers.set i .idle
      result := some o.result
      records := c.records ++ o.records }
  | _ => c

/-- Worker `i` has waited for a job for some time. It leaves if the crew was dismissed. -/
def lookUp (c : Crew σ) (i : Nat) : Crew σ :=
  match c.workers[i]? with
  | some .idle => if c.dismissed then { c with workers := c.workers.set i .gone } else c
  | _ => c

/-- Dismisses the crew. -/
def dismiss (c : Crew σ) : Crew σ :=
  { c with dismissed := true }

/-- Fetches what the last job came to. -/
def fetch (c : Crew σ) : Option (Option Answer × Crew σ) :=
  c.result.map fun r => (r, { c with result := none })

/-- A call through a crew: the first worker takes it, and the result is fetched. -/
def call (size : WorkerCount) (engine : σ) (job : Invocation) : Outcome σ Answer :=
  match (assemble engine size).order job with
  | none => { state := engine, result := none }
  | some c =>
    let c := (c.take 0).work E 0
    { state := c.engine, result := c.result.join, records := c.records }

/-- A call through a crew does what the call does. -/
theorem call_eq (size : WorkerCount) (engine : σ) (job : Invocation) :
    call E size engine job = E.invoke engine job := by
  obtain ⟨n, h⟩ := size
  cases n with
  | zero => exact absurd h (by decide)
  | succ n => simp [call, assemble, order, take, work, List.replicate_succ]

end Crew

end SessionHub
