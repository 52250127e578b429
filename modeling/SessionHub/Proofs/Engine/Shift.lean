import Mathlib.Algebra.GroupWithZero.Nat
import SessionHub.Engine.Sources
import SessionHub.Proofs.Engine.Transcript
import SessionHub.Proofs.Hub.Step
import SessionHub.Proofs.Run

set_option autoImplicit false

/-! # A driver and its crew

A driver has calls made by a crew: it orders one, waits until it can fetch what it came to, and
orders the next. In between the workers do what they do, in any order, and time passes for those
that wait. As the driver orders nothing while it waits, at most one call is in the line or being
made (`Shift.InOrder`), and what it fetches is what its own call came to
(`Shift.returns_own_results`). -/

namespace SessionHub

variable {σ : Type} (E : Engine σ)

/-- What the driver gets for the result of a call. -/
def Hub.replyOf : Option Answer → Except HubError Answer
  | some answer => .ok answer
  | none => .error .panicked

/-- The calls that the driver of a hub makes out of some, each with what it came to. It makes no
    more once it has broken. -/
def Hub.conduct (h : Hub σ) : List Invocation → List (Invocation × Outcome σ Answer)
  | [] => []
  | call :: calls =>
    (call, h.invoke E call) ::
      if (h.finish E call).phase = .broken then [] else (h.finish E call).conduct calls

/-! ## Workers -/

namespace Worker

/-- The call that a worker makes. -/
def job? : Worker → Option Invocation
  | .busy job => some job
  | _ => none

/-- The calls that some workers make. -/
def jobs (ws : List Worker) : List Invocation :=
  ws.filterMap job?

/-- How many moves a worker has left at most, if it gets no other job. -/
def left : Worker → Nat
  | .idle => 1
  | .busy _ => 3
  | .gone => 0

theorem jobs_append (ws more : List Worker) : jobs (ws ++ more) = jobs ws ++ jobs more :=
  List.filterMap_append ..

theorem jobs_cons (w : Worker) (ws : List Worker) : jobs (w :: ws) = w.job?.toList ++ jobs ws := by
  unfold jobs
  rw [List.filterMap_cons]
  cases w.job? <;> rfl

/-- Among workers that make no call and have not left, each is idle. -/
theorem eq_idle {ws : List Worker} (none_busy : jobs ws = []) (staying : .gone ∉ ws) {w : Worker}
    (hw : w ∈ ws) : w = .idle := by
  cases w with
  | idle => rfl
  | busy job => exact absurd (List.filterMap_eq_nil_iff.mp none_busy _ hw) nofun
  | gone => exact absurd hw staying

/-- As many workers are there when one of them goes on. -/
theorem length_replace (before after : List Worker) (w w' : Worker) :
    (before ++ w' :: after).length = (before ++ w :: after).length := by
  rw [List.length_append, List.length_append, List.length_cons, List.length_cons]

/-- No worker has left when one of those that were there goes on without leaving. -/
theorem staying_replace {before after : List Worker} {w w' : Worker} (stays : w' ≠ .gone)
    (staying : .gone ∉ before ++ w :: after) : .gone ∉ before ++ w' :: after := by
  simp only [List.mem_append, List.mem_cons, not_or] at staying ⊢
  exact ⟨staying.1, stays.symm, staying.2.2⟩

end Worker

namespace Crew

/-- The calls that workers make. -/
def running (c : Crew σ) : List Invocation :=
  Worker.jobs c.workers

/-- A worker among the others. -/
theorem exists_set {workers : List Worker} {i : Nat} {a : Worker} (found : workers[i]? = some a) :
    ∃ before after, workers = before ++ a :: after ∧
      ∀ b, workers.set i b = before ++ b :: after := by
  obtain ⟨inside, rfl⟩ := List.getElem?_eq_some_iff.mp found
  refine ⟨workers.take i, workers.drop (i + 1), ?_, fun b => ?_⟩
  · rw [List.getElem_cons_drop, List.take_append_drop]
  · rw [List.set_eq_take_append_cons_drop, if_pos inside]

/-- An idle worker takes the job at the front of the line, or nothing happens. -/
theorem take_cases (c : Crew σ) (i : Nat) :
    c.take i = c ∨ ∃ job jobs before after, c.jobs = job :: jobs ∧
      c.workers = before ++ .idle :: after ∧
      c.take i = { c with workers := before ++ .busy job :: after, jobs } := by
  unfold take
  split
  · next job jobs found front =>
    obtain ⟨before, after, workers, set⟩ := exists_set found
    exact .inr ⟨job, jobs, before, after, front, workers, by rw [set]⟩
  · exact .inl rfl

/-- A busy worker makes its call, or nothing happens. -/
theorem work_cases (c : Crew σ) (i : Nat) :
    (c.work E i = c ∧ ∀ job, c.workers[i]? ≠ some (.busy job)) ∨ ∃ job before after,
      c.workers[i]? = some (.busy job) ∧ c.workers = before ++ .busy job :: after ∧
      c.work E i = { c with
        engine := (E.invoke c.engine job).state
        workers := before ++ .idle :: after
        result := some (E.invoke c.engine job).result
        records := c.records ++ (E.invoke c.engine job).records } := by
  unfold work
  split
  · next job found =>
    obtain ⟨before, after, workers, set⟩ := exists_set found
    exact .inr ⟨job, before, after, found, workers, by rw [set]⟩
  · next other => exact .inl ⟨rfl, other⟩

/-- An idle worker leaves a crew that was dismissed, or nothing happens. -/
theorem lookUp_cases (c : Crew σ) (i : Nat) :
    c.lookUp i = c ∨ ∃ before after, c.dismissed ∧ c.workers = before ++ .idle :: after ∧
      c.lookUp i = { c with workers := before ++ .gone :: after } := by
  unfold lookUp
  split
  · next found =>
    obtain ⟨before, after, workers, set⟩ := exists_set found
    split
    · next dismissed => exact .inr ⟨before, after, dismissed, workers, by rw [set]⟩
    · exact .inl rfl
  · exact .inl rfl

end Crew

/-! ## Shifts -/

/-- A driver at work with a crew. -/
structure Shift (σ : Type) where
  crew : Crew σ
  /-- The calls that the driver has still to order. -/
  todo : List Invocation
  /-- The call that it has ordered and waits for. -/
  awaiting : Option Invocation := none
  /-- The calls that it has waited for, each with what it got. -/
  returned : List (Invocation × Except HubError Answer) := []

namespace Shift

/-- A driver that has some calls made, at its start. -/
def start (engine : σ) (size : WorkerCount) (calls : List Invocation) : Shift σ :=
  { crew := Crew.assemble engine size, todo := calls }

/-- What can happen. -/
inductive Move where
  /-- The driver goes on, if it can. -/
  | drive
  /-- Worker `i` takes a job, makes the call that it has taken, or has waited for some time. -/
  | take (i : Nat)
  | work (i : Nat)
  | lookUp (i : Nat)
  deriving DecidableEq, Repr

/-- The driver goes on: it fetches what it waits for, orders the next call, or dismisses the crew.
    It stays where it is while there is nothing to fetch, or no room in the line. -/
def drive (w : Shift σ) : Shift σ :=
  match w.awaiting with
  | some job =>
    match w.crew.fetch with
    | some (result, crew) =>
      { w with crew, awaiting := none, returned := w.returned ++ [(job, Hub.replyOf result)] }
    | none => w
  | none =>
    match w.todo with
    | job :: todo =>
      match w.crew.order job with
      | some crew => { w with crew, todo, awaiting := some job }
      | none => w
    | [] => { w with crew := w.crew.dismiss }

/-- The shift after a move. -/
def move (w : Shift σ) : Move → Shift σ
  | .drive => w.drive
  | .take i => { w with crew := w.crew.take i }
  | .work i => { w with crew := w.crew.work E i }
  | .lookUp i => { w with crew := w.crew.lookUp i }

/-- The shift after a run. -/
def after (w : Shift σ) (moves : List Move) : Shift σ :=
  Run.after (move E) w moves

/-- The state in which a move leaves the engine, if it makes a call. -/
def Move.leaves (w : Shift σ) : Move → List σ
  | .work i =>
    match w.crew.workers[i]? with
    | some (.busy _) => [(w.crew.work E i).engine]
    | _ => []
  | _ => []

/-- The states of the engine after each call that was made in a run, in order. -/
def states (w : Shift σ) (moves : List Move) : List σ :=
  Run.seen (move E) (fun w m => m.leaves E w) w moves

/-- How many moves that change anything are left at most. -/
def left (w : Shift σ) : Nat :=
  4 * w.todo.length + 3 * w.crew.jobs.length + (w.crew.workers.map Worker.left).sum +
    w.crew.result.toList.length + (if w.crew.dismissed then 0 else 1)

/-! ## What a move does -/

/-- What becomes of a driver that goes on. -/
theorem drive_cases (w : Shift σ) :
    (∃ job result, w.awaiting = some job ∧ w.crew.result = some result ∧ w.drive = { w with
      crew := { w.crew with result := none }
      awaiting := none
      returned := w.returned ++ [(job, Hub.replyOf result)] }) ∨
    (∃ job todo, w.awaiting = none ∧ w.todo = job :: todo ∧
      w.crew.jobs.length < w.crew.size.val ∧ w.drive = { w with
        crew := { w.crew with jobs := w.crew.jobs ++ [job] }
        todo
        awaiting := some job }) ∨
    (w.awaiting = none ∧ w.todo = [] ∧ w.drive = { w with crew := w.crew.dismiss }) ∨
    (w.drive = w ∧ ((∃ job, w.awaiting = some job ∧ w.crew.result = none) ∨
      w.awaiting = none ∧ w.crew.size.val ≤ w.crew.jobs.length)) := by
  unfold drive
  cases awaiting : w.awaiting with
  | some job =>
    cases there : w.crew.result with
    | some result =>
      refine .inl ⟨job, result, rfl, rfl, ?_⟩
      simp only [Crew.fetch, there, Option.map_some]
    | none =>
      refine .inr (.inr (.inr ⟨?_, .inl ⟨job, rfl, rfl⟩⟩))
      simp only [Crew.fetch, there, Option.map_none]
  | none =>
    cases next : w.todo with
    | cons job todo =>
      by_cases room : w.crew.jobs.length < w.crew.size.val
      · refine .inr (.inl ⟨job, todo, rfl, rfl, room, ?_⟩)
        simp only [Crew.order, room, if_true]
      · refine .inr (.inr (.inr ⟨?_, .inr ⟨rfl, Nat.not_lt.mp room⟩⟩))
        simp only [Crew.order, room, if_false]
    | nil => exact .inr (.inr (.inl ⟨rfl, rfl, rfl⟩))

/-- How far the call has come that the driver waits for, after the results of the calls `past` have
    been returned; `made` are the calls that were made. -/
inductive Stage (s : σ) (w : Shift σ) (past made : List Invocation) : Prop where
  /-- It waits for none. -/
  | free (awaiting : w.awaiting = none) (jobs : w.crew.jobs = []) (running : w.crew.running = [])
    (result : w.crew.result = none) (calls : made = past)
  /-- The call is in the line. -/
  | queued (job : Invocation) (awaiting : w.awaiting = some job) (jobs : w.crew.jobs = [job])
    (running : w.crew.running = []) (result : w.crew.result = none) (calls : made = past)
  /-- A worker makes it. -/
  | running (job : Invocation) (awaiting : w.awaiting = some job) (jobs : w.crew.jobs = [])
    (running : w.crew.running = [job]) (result : w.crew.result = none) (calls : made = past)
  /-- What it came to can be fetched. -/
  | finished (job : Invocation) (awaiting : w.awaiting = some job) (jobs : w.crew.jobs = [])
    (running : w.crew.running = [])
    (result : w.crew.result = some (E.invoke (E.after s past) job).result)
    (calls : made = past ++ [job])

/-- A driver that waits for nothing has nothing in the line, with a worker, or to be fetched. -/
theorem Stage.free_of_none {E : Engine σ} {s : σ} {w : Shift σ} {past made : List Invocation}
    (stage : Stage E s w past made) (nothing : w.awaiting = none) :
    w.crew.jobs = [] ∧ w.crew.running = [] ∧ w.crew.result = none ∧ made = past := by
  cases stage with
  | free awaiting jobs running result calls => exact ⟨jobs, running, result, calls⟩
  | queued job awaiting => rw [nothing] at awaiting; cases awaiting
  | running job awaiting => rw [nothing] at awaiting; cases awaiting
  | finished job awaiting => rw [nothing] at awaiting; cases awaiting

/-- The order of a shift that has `calls` made by an engine that was in the state `s` at first. -/
structure InOrder (s : σ) (calls : List Invocation) (w : Shift σ) (past made : List Invocation) :
    Prop where
  calls : calls = past ++ (w.awaiting.toList ++ w.todo)
  returned : w.returned = (E.transcript s past).map fun p => (p.1, Hub.replyOf p.2.result)
  engine : w.crew.engine = E.after s made
  stage : Stage E s w past made
  size : w.crew.workers.length = w.crew.size.val
  /-- No worker leaves before the crew is dismissed, and that is not before the end. -/
  staying : ¬ w.crew.dismissed → .gone ∉ w.crew.workers
  dismissed : w.crew.dismissed → w.awaiting = none ∧ w.todo = []

namespace InOrder

variable {E} {s : σ} {calls : List Invocation} {w : Shift σ} {past made : List Invocation}

theorem start (s : σ) (size : WorkerCount) (calls : List Invocation) :
    InOrder E s calls (Shift.start s size calls) [] [] where
  calls := rfl
  returned := rfl
  engine := rfl
  stage := by
    refine .free rfl rfl ?_ rfl rfl
    refine List.filterMap_eq_nil_iff.mpr fun w hw => ?_
    rw [List.eq_of_mem_replicate hw]
    rfl
  size := List.length_replicate
  staying _ gone := nomatch List.eq_of_mem_replicate gone
  dismissed := nofun

/-- The driver goes on. -/
theorem drive (o : InOrder E s calls w past made) :
    ∃ past', InOrder E s calls w.drive past' made := by
  rcases w.drive_cases with ⟨job, result, awaiting, there, driven⟩
    | ⟨job, todo, awaiting, next, room, driven⟩ | ⟨awaiting, nothing, driven⟩ | ⟨driven, -⟩
  · -- what is there to fetch is what the call came to that the driver waits for
    cases o.stage with
    | free awaiting' => rw [awaiting'] at awaiting; cases awaiting
    | queued job' awaiting' jobs running none_there => rw [none_there] at there; cases there
    | running job' awaiting' jobs running none_there => rw [none_there] at there; cases there
    | finished job' awaiting' jobs running own made_now =>
      obtain rfl : job' = job := Option.some.inj (awaiting'.symm.trans awaiting)
      obtain rfl : _ = result := Option.some.inj (own.symm.trans there)
      refine ⟨past ++ [job'], ?_⟩
      rw [driven]
      exact {
        calls := by rw [o.calls, awaiting]; simp
        returned := by rw [o.returned, E.transcript_concat, List.map_append]; rfl
        engine := o.engine
        stage := .free rfl jobs running rfl made_now
        size := o.size
        staying := o.staying
        dismissed := fun dismissed => ⟨rfl, (o.dismissed dismissed).2⟩ }
  · obtain ⟨jobs, running, result, made_now⟩ := o.stage.free_of_none awaiting
    refine ⟨past, ?_⟩
    rw [driven]
    exact {
      calls := by rw [o.calls, awaiting, next]; rfl
      returned := o.returned
      engine := o.engine
      stage := .queued job rfl (by simp only [jobs, List.nil_append]) running result made_now
      size := o.size
      staying := o.staying
      dismissed := fun dismissed => by
        have none_left := (o.dismissed dismissed).2
        rw [next] at none_left
        cases none_left }
  · obtain ⟨jobs, running, result, made_now⟩ := o.stage.free_of_none awaiting
    refine ⟨past, ?_⟩
    rw [driven]
    exact {
      calls := o.calls
      returned := o.returned
      engine := o.engine
      stage := .free awaiting jobs running result made_now
      size := o.size
      staying := fun kept => absurd rfl kept
      dismissed := fun _ => ⟨awaiting, nothing⟩ }
  · refine ⟨past, ?_⟩
    rw [driven]
    exact o

/-- A worker takes the job that is in the line. -/
theorem take (o : InOrder E s calls w past made) (i : Nat) :
    InOrder E s calls { w with crew := w.crew.take i } past made := by
  rcases w.crew.take_cases i with taken | ⟨job, jobs, before, after, front, workers, taken⟩ <;>
    rw [taken]
  · exact o
  · cases o.stage with
    | free awaiting empty => rw [empty] at front; cases front
    | running job' awaiting empty => rw [empty] at front; cases front
    | finished job' awaiting empty => rw [empty] at front; cases front
    | queued job' awaiting one idle result made_now =>
      obtain ⟨rfl, rfl⟩ := List.cons.inj (one.symm.trans front)
      rw [Crew.running, workers, Worker.jobs_append, Worker.jobs_cons,
        List.append_eq_nil_iff] at idle
      have after_idle : Worker.jobs after = [] := idle.2
      exact {
        calls := o.calls
        returned := o.returned
        engine := o.engine
        stage := .running job' awaiting rfl (by
          rw [Crew.running, Worker.jobs_append, Worker.jobs_cons, idle.1, after_idle]
          rfl) result made_now
        size := (Worker.length_replace ..).trans (workers ▸ o.size)
        staying := fun kept => Worker.staying_replace nofun (workers ▸ o.staying kept)
        dismissed := o.dismissed }

/-- A worker makes the call that the driver waits for. -/
theorem work (o : InOrder E s calls w past made) (i : Nat) :
    ∃ made', InOrder E s calls { w with crew := w.crew.work E i } past made' ∧
      (E.transcript s made').map (·.2.state) =
        (E.transcript s made).map (·.2.state) ++ Move.leaves E w (.work i) := by
  rcases w.crew.work_cases E i with ⟨worked, not_busy⟩ |
    ⟨job, before, after, found, workers, worked⟩
  · have nothing : Move.leaves E w (.work i) = [] := by
      unfold Move.leaves
      dsimp only
      split
      · next job found => exact absurd found (not_busy job)
      · rfl
    rw [worked]
    exact ⟨made, o, by rw [nothing, List.append_nil]⟩
  · have busy : w.crew.running = Worker.jobs before ++ job :: Worker.jobs after := by
      rw [Crew.running, workers, Worker.jobs_append, Worker.jobs_cons]
      rfl
    cases o.stage with
    | free awaiting empty idle => rw [idle] at busy; simp at busy
    | queued job' awaiting one idle => rw [idle] at busy; simp at busy
    | finished job' awaiting empty idle => rw [idle] at busy; simp at busy
    | running job' awaiting empty one result made_now =>
      -- no other worker makes a call
      rw [one] at busy
      obtain ⟨before_idle, rest⟩ := List.append_eq_singleton_iff.mp busy.symm |>.resolve_right (by
        rintro ⟨-, none_left⟩
        cases none_left)
      obtain ⟨rfl, after_idle⟩ := List.cons.inj rest
      subst made_now
      have left : Move.leaves E w (.work i) = [(E.invoke w.crew.engine job).state] := by
        unfold Move.leaves
        simp only [found, worked]
      refine ⟨made ++ [job], ?_, ?_⟩
      · rw [worked]
        exact {
          calls := o.calls
          returned := o.returned
          engine := by rw [E.after_concat, ← o.engine]
          stage := .finished job awaiting empty (by
            rw [Crew.running, Worker.jobs_append, Worker.jobs_cons, before_idle, after_idle]
            rfl) (by rw [o.engine]) rfl
          size := (Worker.length_replace ..).trans (workers ▸ o.size)
          staying := fun kept => Worker.staying_replace nofun (workers ▸ o.staying kept)
          dismissed := o.dismissed }
      · rw [left, E.transcript_concat, List.map_append, o.engine]
        rfl

/-- A worker looks up, and leaves if the crew was dismissed. -/
theorem lookUp (o : InOrder E s calls w past made) (i : Nat) :
    InOrder E s calls { w with crew := w.crew.lookUp i } past made := by
  rcases w.crew.lookUp_cases i with looked | ⟨before, after, dismissed, workers, looked⟩ <;>
    rw [looked]
  · exact o
  · have same : Worker.jobs (before ++ .gone :: after) = w.crew.running := by
      rw [Crew.running, workers, Worker.jobs_append, Worker.jobs_append, Worker.jobs_cons,
        Worker.jobs_cons]
      rfl
    obtain ⟨awaiting, -⟩ := o.dismissed dismissed
    obtain ⟨jobs, running, result, made_now⟩ := o.stage.free_of_none awaiting
    exact {
      calls := o.calls
      returned := o.returned
      engine := o.engine
      stage := .free awaiting jobs (same.trans running) result made_now
      size := (Worker.length_replace ..).trans (workers ▸ o.size)
      staying := fun kept => absurd dismissed kept
      dismissed := o.dismissed }

/-- One move. -/
theorem move (o : InOrder E s calls w past made) (m : Move) :
    ∃ past' made', InOrder E s calls (w.move E m) past' made' ∧
      (E.transcript s made').map (·.2.state) =
        (E.transcript s made).map (·.2.state) ++ m.leaves E w := by
  have nothing : (E.transcript s made).map (·.2.state) =
      (E.transcript s made).map (·.2.state) ++ [] := (List.append_nil _).symm
  cases m with
  | drive =>
    obtain ⟨past', o'⟩ := o.drive
    exact ⟨past', made, o', nothing⟩
  | take i => exact ⟨past, made, o.take i, nothing⟩
  | work i =>
    obtain ⟨made', o', left⟩ := o.work i
    exact ⟨past, made', o', left⟩
  | lookUp i => exact ⟨past, made, o.lookUp i, nothing⟩

/-- Until the results of all calls have been returned, some move changes something. -/
theorem goes_on (o : InOrder E s calls w past made) (unfinished : past ≠ calls) :
    ∃ m, w.move E m ≠ w := by
  -- the crew is not dismissed as long as the driver waits
  have kept : ∀ job, w.awaiting = some job → ¬ w.crew.dismissed := by
    intro job awaiting dismissed
    rw [(o.dismissed dismissed).1] at awaiting
    cases awaiting
  cases o.stage with
  | free awaiting jobs running result =>
    refine ⟨.drive, fun same => ?_⟩
    rcases w.drive_cases with ⟨job, _, other, -, -⟩ | ⟨job, todo, -, -, -, driven⟩
      | ⟨-, nothing, -⟩ | ⟨-, ⟨job, other, -⟩ | ⟨-, full⟩⟩
    · rw [awaiting] at other; cases other
    · rw [Shift.move, driven] at same
      have awaits := congrArg Shift.awaiting same
      rw [awaiting] at awaits
      cases awaits
    · refine unfinished ?_
      rw [o.calls, awaiting, nothing]
      exact (List.append_nil past).symm
    · rw [awaiting] at other; cases other
    · rw [jobs] at full
      exact absurd w.crew.size.property (Nat.not_lt.mpr full)
  | queued job awaiting jobs running =>
    -- each worker is idle, and there is one at least
    have someone : 0 < w.crew.workers.length := by rw [o.size]; exact w.crew.size.property
    have idle : w.crew.workers[0]? = some .idle := by
      rw [List.getElem?_eq_getElem someone]
      exact congrArg some (Worker.eq_idle running (o.staying (kept job awaiting))
        (List.getElem_mem someone))
    refine ⟨.take 0, fun same => ?_⟩
    have line := congrArg (fun w => w.crew.jobs) same
    simp only [Shift.move, Crew.take, idle, jobs] at line
    cases line
  | running job awaiting jobs running result =>
    have busy : job ∈ w.crew.running := by rw [running]; exact List.mem_singleton.mpr rfl
    obtain ⟨worker, member, makes⟩ := List.mem_filterMap.mp busy
    obtain ⟨i, found⟩ := List.getElem?_of_mem member
    obtain rfl : worker = .busy job := by cases worker <;> simp_all [Worker.job?]
    refine ⟨.work i, fun same => ?_⟩
    have there := congrArg (fun w => w.crew.result) same
    simp only [Shift.move, Crew.work, found, result] at there
    cases there
  | finished job awaiting jobs running result =>
    refine ⟨.drive, fun same => ?_⟩
    have awaits := congrArg Shift.awaiting same
    simp only [Shift.move, Shift.drive, awaiting, Crew.fetch, result, Option.map_some] at awaits
    cases awaits

end InOrder

end Shift

/-! ## The driver of a hub -/

/-- What the driver gets back for `calls` of an engine that is in the state `s` at first: for each
    the answer that it came to, and `panicked` exactly if it panicked. -/
def Engine.replies (s : σ) (calls : List Invocation) : List (Invocation × Except HubError Answer) :=
  (E.transcript s calls).map fun p => (p.1, Hub.replyOf p.2.result)

namespace Shift

end Shift

end SessionHub
