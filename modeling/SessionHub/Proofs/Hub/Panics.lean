import SessionHub.Engine.Scripted
import SessionHub.Proofs.Hub.Draining

set_option autoImplicit false

/-! # What a panicking poll leaves

A driver with a crew outlives the panics of its engine. After a request that panicked it polls, as
after any other, and a closing that panicked leaves its plans as they were. But a poll that panicked
is not made again: if it leaves work, the driver goes to wait with that work undone. The main
statement is that this is the only way to get there, and always one (`waits_with_work_iff`). -/

namespace SessionHub

namespace Engine

variable {σ : Type} (E : Engine σ)

/-- Whether a poll panics in the state `s` and leaves work. -/
def PollLapses (s : σ) : Prop :=
  (E.invoke s .poll).result = none ∧ E.hasPending (E.invoke s .poll).state ≠ some false

/-- Whether the last of some calls, closings aside, is a poll that panics and leaves work. -/
def EndsInLapse (s : σ) (calls : List Invocation) : Prop :=
  ∃ before closings, calls = before ++ .poll :: closings ∧
    (∀ call ∈ closings, ∃ id, call = .close id) ∧ E.PollLapses (E.after s before)

variable {E}

theorem PollLapses.endsInLapse {s : σ} {calls : List Invocation}
    (lapses : E.PollLapses (E.after s calls)) : E.EndsInLapse s (calls ++ [.poll]) :=
  ⟨calls, [], rfl, nofun, lapses⟩

theorem EndsInLapse.close {s : σ} {calls : List Invocation} (lapsed : E.EndsInLapse s calls)
    (id : SessionId) : E.EndsInLapse s (calls ++ [.close id]) := by
  obtain ⟨before, closings, rfl, only, lapses⟩ := lapsed
  refine ⟨before, closings ++ [.close id], by simp, fun call hc => ?_, lapses⟩
  rcases List.mem_append.mp hc with hc | hc
  · exact only call hc
  · exact ⟨id, List.mem_singleton.mp hc⟩

theorem EndsInLapse.exists_lapse {s : σ} {calls : List Invocation}
    (lapsed : E.EndsInLapse s calls) : ∃ before, E.PollLapses (E.after s before) := by
  obtain ⟨before, -, -, -, lapses⟩ := lapsed
  exact ⟨before, lapses⟩

end Engine

theorem Scripted.hasPending_close (s : Scripted) (id : SessionId)
    (nothing : engine.hasPending s = some false) :
    engine.hasPending (engine.close s id).state = some false := by
  have nothing : s.hasPending = false := Option.some.inj nothing
  have noted : (s.note (.close id)).hasPending = false := nothing
  show some ((s.close id).state).hasPending = some false
  unfold close
  generalize s.note (.close id) = t at noted
  dsimp only
  split
  · exact congrArg some noted
  · split
    · next sources =>
      rw [hasPending, sources] at noted ⊢
      exact Sources.hasPending_close t.sources id (congrArg some noted)
    · exact congrArg some noted

namespace Hub

variable {σ : Type} (E : Engine σ)

/-! ## The driver does not forget anything else -/

theorem mode_after (h : Hub σ) (moves : List Move) : (after E h moves).mode = h.mode := by
  refine Run.after_induction (move E) (motive := fun _ h' => h'.mode = h.mode) h rfl ?_ moves
  intro moves m same
  by_cases inside : m = .drive
  · subst inside
    exact (step_frame E _).mode.trans same
  · exact (scheduling_move E _ inside).2.trans same

/-- After a call that a worker made no poll is scheduled only if it was a poll, and left no work or
    panicked, or if it closed a session and none was scheduled before. -/
theorem unscheduled_of_finish {h : Hub σ} {workers : WorkerCount} (pool : h.mode = .pool workers)
    {call : Invocation} (off : (h.finish E call).pollScheduled = false) :
    call = .poll ∧ (E.hasPending (E.invoke h.engine call).state = some false ∨
      (E.invoke h.engine call).result = none) ∨
    (∃ id, call = .close id) ∧ h.pollScheduled = false := by
  cases result : (E.invoke h.engine call).result with
  | some answer =>
    rw [finish_of_answer E result] at off
    exact (unscheduled_of_answer E result off).imp_left fun polled => ⟨polled.1, .inl polled.2⟩
  | none =>
    simp only [finish, invoke_eq, result, noteAll, pool] at off
    cases call with
    | request id bytes => cases off
    | poll => exact .inl ⟨rfl, .inr rfl⟩
    | close id => exact .inr ⟨⟨id, rfl⟩, off⟩

/-- Unless a poll is scheduled or about to be made, the engine has no work left, or the last poll
    has lapsed. -/
theorem idle_or_lapsed (s : σ) (workers : WorkerCount) (idle : E.hasPending s = some false)
    (closes : ∀ s id, E.hasPending s = some false → E.hasPending (E.close s id).state = some false)
    (moves : List Move) :
    let start : Hub σ := { engine := s, mode := .pool workers }
    let h := after E start moves
    h.pollScheduled = false → h.phase ≠ .calling .poll →
      E.hasPending h.engine = some false ∨ E.EndsInLapse s (called E start moves) := by
  intro start
  refine Run.after_induction (move E) (motive := fun moves h => h.pollScheduled = false →
    h.phase ≠ .calling .poll →
      E.hasPending h.engine = some false ∨ E.EndsInLapse s (called E start moves)) start
    (fun _ _ => .inl idle) ?_ moves
  intro moves m ih off polls
  have engine := (account_after E s (.pool workers) moves).engine
  have pool : (Run.after (move E) start moves).mode = .pool workers := mode_after E start moves
  -- the calls of one more move come after those of the others
  rw [called, Run.seen_concat, ← called]
  generalize same : Run.after (move E) start moves = h at *
  have engine : h.engine = E.after s (called E start moves) := same ▸ engine
  by_cases inside : m = .drive
  case neg =>
    have queued := queued_move E h inside
    rw [called_of_outside h inside, List.append_nil, queued.engine]
    rw [(scheduling_move E h inside).1] at off
    rw [queued.phase] at polls
    exact ih off polls
  subst inside
  simp only [move] at off polls ⊢
  by_cases quiet : ∀ call, h.phase ≠ .calling call
  · obtain ⟨off_before, still⟩ := unscheduled_of_step E quiet off polls
    rw [still, Move.called, inCall_eq_nil quiet, List.append_nil]
    exact ih off_before (quiet .poll)
  · obtain ⟨call, calling⟩ := Classical.not_forall_not.mp quiet
    have left : (h.step E).engine = (E.invoke h.engine call).state := by
      simp only [step, calling]
      exact (finish_frame E h call).1
    simp only [step, calling] at off
    rw [left, Move.called, inCall_of_calling calling]
    obtain ⟨rfl, left | panicked⟩ | ⟨⟨id, rfl⟩, off_before⟩ := unscheduled_of_finish E pool off
    · exact .inl left
    · by_cases nothing : E.hasPending (E.invoke h.engine .poll).state = some false
      · exact .inl nothing
      · rw [engine] at panicked nothing
        exact .inr (Engine.PollLapses.endsInLapse ⟨panicked, nothing⟩)
    · rcases ih off_before (by simp [calling]) with nothing | lapsed
      · exact .inl (closes _ id nothing)
      · exact .inr (lapsed.close id)

/-! ## Any calls can be had -/

/-- Whether `h'` is `h` with the driver ready. -/
structure Readied (h h' : Hub σ) : Prop where
  phase : h'.phase = .ready
  queue : h'.queue = h.queue
  engine : h'.engine = h.engine
  handles : h'.handles = h.handles
  pollScheduled : h'.pollScheduled = h.pollScheduled

theorem Readied.of_ready {h : Hub σ} (ready : h.phase = .ready) : Readied h h :=
  ⟨ready, rfl, rfl, rfl, rfl⟩

/-- A step that makes no call, before others. -/
theorem Readied.after_step {h : Hub σ} (idle : h.inCall = []) (queue : (h.step E).queue = h.queue)
    (engine : (h.step E).engine = h.engine)
    (scheduled : (h.step E).pollScheduled = h.pollScheduled) {n : Nat}
    (later : Readied (h.step E) (after E (h.step E) (List.replicate n .drive)) ∧
      called E (h.step E) (List.replicate n .drive) = []) :
    Readied h (after E h (List.replicate (n + 1) .drive)) ∧
      called E h (List.replicate (n + 1) .drive) = [] := by
  obtain ⟨same, none_made⟩ := later
  refine ⟨⟨same.phase, same.queue.trans queue, same.engine.trans engine,
    same.handles.trans (h.step_frame E).handles, same.pollScheduled.trans scheduled⟩, ?_⟩
  show h.inCall ++ called E (h.step E) (List.replicate n .drive) = []
  rw [idle, none_made]
  rfl

/-- A driver that hands out responses gets ready. -/
theorem readied_of_routing (rest : List Response) (h : Hub σ) (routing : h.phase = .routing rest) :
    ∃ n, Readied h (after E h (List.replicate n .drive)) ∧
      called E h (List.replicate n .drive) = [] := by
  have idle : h.inCall = [] := inCall_eq_nil (by simp [routing])
  induction rest generalizing h with
  | nil =>
    have step : h.step E = { h with phase := .ready } := by simp only [step, routing, route]
    refine ⟨1, Readied.after_step E idle ?_ ?_ ?_ ⟨Readied.of_ready ?_, rfl⟩⟩ <;> rw [step]
  | cons r rest ih =>
    -- the callback is looked up in one step and run in another
    have found := step_of_routing E routing
    have delivering : (h.step E).phase = .delivering (h.lookUp r.session r.bytes) rest := by
      rw [found]
    obtain ⟨mailboxes, log, passed, -, -⟩ :=
      (h.step E).pass_eq (h.lookUp r.session r.bytes) rest
    rw [← step_of_delivering E delivering] at passed
    have later : ∃ n,
        Readied ((h.step E).step E) (after E ((h.step E).step E) (List.replicate n .drive)) ∧
          called E ((h.step E).step E) (List.replicate n .drive) = [] := by
      cases rest with
      | nil => exact ⟨0, Readied.of_ready (by rw [passed]; rfl), rfl⟩
      | cons r' rest =>
        have going : ((h.step E).step E).phase = .routing (r' :: rest) := by rw [passed]; rfl
        exact ih _ going (inCall_eq_nil (by simp [going]))
    obtain ⟨n, later⟩ := later
    have run : Readied (h.step E) (after E (h.step E) (List.replicate (n + 1) .drive)) ∧
        called E (h.step E) (List.replicate (n + 1) .drive) = [] := by
      refine Readied.after_step E (inCall_eq_nil (by simp [delivering])) ?_ ?_ ?_ later <;>
        rw [passed]
    refine ⟨n + 2, Readied.after_step E idle ?_ ?_ ?_ run⟩ <;> rw [found]

/-- After a call that a worker made the driver is ready, or hands out what the call gave. -/
theorem phase_finish {h : Hub σ} {workers : WorkerCount} (pool : h.mode = .pool workers)
    (call : Invocation) :
    (h.finish E call).phase = .ready ∨ ∃ rest, (h.finish E call).phase = .routing rest := by
  cases result : (E.invoke h.engine call).result with
  | some answer =>
    rw [finish_of_answer E result, accept]
    cases answer.responses with
    | nil => exact .inl rfl
    | cons r rest => exact .inr ⟨r :: rest, rfl⟩
  | none =>
    simp only [finish, invoke_eq, result, noteAll, pool]
    cases call <;> exact .inl rfl

/-- A driver with a crew lets a call come back, whatever it comes to, and gets ready. -/
theorem readied_of_calling {h : Hub σ} {workers : WorkerCount} (pool : h.mode = .pool workers)
    {call : Invocation} (calling : h.phase = .calling call) :
    ∃ n, Readied (h.finish E call) (after E h (List.replicate (n + 1) .drive)) ∧
      called E h (List.replicate (n + 1) .drive) = [call] := by
  have step : h.step E = h.finish E call := by simp only [Hub.step, calling]
  have first : ∀ n, called E h (List.replicate (n + 1) .drive) =
      call :: called E (h.step E) (List.replicate n .drive) := by
    intro n
    show h.inCall ++ _ = _
    rw [inCall_of_calling calling]
    rfl
  rcases phase_finish E pool call with ready | ⟨rest, routing⟩
  · refine ⟨0, ?_, first 0⟩
    show Readied _ (h.step E)
    rw [step]
    exact .of_ready ready
  · rw [← step] at routing
    obtain ⟨n, readied, none_made⟩ := readied_of_routing E rest (h.step E) routing
    refine ⟨n, ?_, by rw [first, none_made]⟩
    rw [← step]
    exact readied

/-- A driver with a crew that has nothing in its queue makes a call when it is sent the command, and
    gets ready again. -/
theorem makes_call {h : Hub σ} {workers : WorkerCount} (pool : h.mode = .pool workers)
    (ready : h.phase = .ready) (empty : h.queue = []) (call : Invocation) :
    ∃ moves : List Move, let h' := after E h moves
      h'.phase = .ready ∧ h'.queue = [] ∧ h'.handles = h.handles ∧
      h'.engine = (E.invoke h.engine call).state ∧ called E h moves = [call] ∧
      (call = .poll → (E.invoke h.engine call).result = none → h'.pollScheduled = false) := by
  let begun : Hub σ := { h with
    queue := []
    phase := .calling call
    pollScheduled := if call = .poll then false else h.pollScheduled }
  have begins : after E h [.command call.command, .drive] = begun := by
    have running : h.isRunning := by rw [isRunning, ready]
    show (h.send call.command).1.step E = begun
    rw [send_eq running, empty]
    simp only [step, ready, take, List.nil_append]
    exact carryOut_command _ call
  have none_made : called E h [.command call.command, .drive] = [] := by
    have idle : (h.send call.command).1.inCall = [] :=
      inCall_eq_nil (by simp [(h.queued_send call.command).phase, ready])
    show [] ++ ((h.send call.command).1.inCall ++ []) = []
    rw [idle]
    rfl
  obtain ⟨n, readied, made⟩ := readied_of_calling E (h := begun) pool rfl
  have last : after E h ([.command call.command, .drive] ++ List.replicate (n + 1) .drive) =
      after E (after E h [.command call.command, .drive]) (List.replicate (n + 1) .drive) :=
    Run.after_append ..
  have calls : called E h ([.command call.command, .drive] ++ List.replicate (n + 1) .drive) =
      called E h [.command call.command, .drive] ++
        called E (after E h [.command call.command, .drive]) (List.replicate (n + 1) .drive) :=
    Run.seen_append ..
  rw [begins] at last calls
  refine ⟨[.command call.command, .drive] ++ List.replicate (n + 1) .drive, ?_⟩
  rw [last, calls, none_made, made]
  obtain ⟨engine, -, -, queue⟩ := finish_frame E begun call
  have running : (begun.finish E call).isRunning := by
    rcases phase_finish E (h := begun) pool call with now | ⟨rest, now⟩ <;> rw [isRunning, now]
  have handles : (begun.finish E call).handles = h.handles := (begun.step_frame E).handles
  refine ⟨readied.phase, readied.queue.trans (queue running), readied.handles.trans handles,
    readied.engine.trans engine, rfl, ?_⟩
  rintro rfl panicked
  rw [readied.pollScheduled]
  simp only [begun, finish, invoke_eq, panicked, noteAll, pool]
  rfl

/-- A driver with a crew can be made to make any calls, one after the other. -/
theorem makes_calls (calls : List Invocation) {h : Hub σ} {workers : WorkerCount}
    (pool : h.mode = .pool workers) (ready : h.phase = .ready) (empty : h.queue = []) :
    ∃ moves : List Move, let h' := after E h moves
      h'.phase = .ready ∧ h'.queue = [] ∧ h'.handles = h.handles ∧
      h'.engine = E.after h.engine calls ∧ called E h moves = calls := by
  induction calls generalizing h with
  | nil => exact ⟨[], ready, empty, rfl, rfl, rfl⟩
  | cons call calls ih =>
    obtain ⟨first, ready', empty', handles, engine, made, -⟩ := makes_call E pool ready empty call
    obtain ⟨rest, ready'', empty'', handles', engine', made'⟩ :=
      ih ((mode_after E h first).trans pool) ready' empty'
    have last : after E h (first ++ rest) = after E (after E h first) rest := Run.after_append ..
    refine ⟨first ++ rest, ?_⟩
    rw [last]
    refine ⟨ready'', empty'', handles'.trans handles, ?_, ?_⟩
    · rw [engine', engine]
      rfl
    · rw [called, Run.seen_append, ← called, made]
      exact congrArg (call :: ·) made'

/-- A poll that lapses after some calls makes the driver wait with work left, unless it is sent
    something. -/
theorem waits_after_lapse (s : σ) (workers : WorkerCount) (calls : List Invocation)
    (lapses : E.PollLapses (E.after s calls)) :
    let start : Hub σ := { engine := s, mode := .pool workers }
    ∃ moves : List Move, let h := after E start moves
      called E start moves = calls ++ [.poll] ∧ h.phase = .ready ∧ h.isBlocked ∧
      E.hasPending h.engine ≠ some false := by
  intro start
  let begun := after E start [.drive]
  have pool : begun.mode = .pool workers := mode_after E start [.drive]
  obtain ⟨first, ready, empty, handles, engine, made⟩ :=
    makes_calls E calls (h := begun) pool rfl rfl
  have engine : (after E begun first).engine = E.after s calls := engine
  obtain ⟨rest, ready', empty', handles', engine', made', off⟩ :=
    makes_call E ((mode_after E begun first).trans pool) ready empty .poll
  rw [engine] at engine' off
  have last : after E start (.drive :: first ++ rest) = after E (after E begun first) rest :=
    Run.after_append ..
  have whole : called E start (.drive :: first ++ rest) =
      called E start (.drive :: first) ++ called E (after E begun first) rest := Run.seen_append ..
  have made : called E start (.drive :: first) = calls := made
  refine ⟨.drive :: first ++ rest, ?_⟩
  rw [last, whole, made, made']
  refine ⟨rfl, ready', ?_, ?_⟩
  · have held : (after E (after E begun first) rest).handles = 1 := handles'.trans handles
    simp [isBlocked, empty', held, off rfl lapses.1]
  · rw [engine']
    exact lapses.2

/-- A driver in `.pool` mode, over an engine that has no work pending at first and gets none by
    `close`: if it is blocked while the engine has work pending, then its last call, closings aside,
    was a poll that panicked and left work pending (`EndsInLapse`). So it is never blocked with work
    pending exactly if no poll can do so after any calls (`PollLapses`). -/
theorem waits_with_work_iff (s : σ) (workers : WorkerCount) (idle : E.hasPending s = some false)
    (closes : ∀ s id, E.hasPending s = some false →
      E.hasPending (E.close s id).state = some false) :
    let start : Hub σ := { engine := s, mode := .pool workers }
    (∀ moves : List Move, let h := after E start moves
      h.phase = .ready → h.isBlocked →
        E.hasPending h.engine = some false ∨ E.EndsInLapse s (called E start moves)) ∧
    ((∀ moves : List Move, let h := after E start moves
      h.phase = .ready → h.isBlocked → E.hasPending h.engine = some false) ↔
        ∀ calls : List Invocation, ¬ E.PollLapses (E.after s calls)) := by
  intro start
  have law : ∀ moves : List Move, let h := after E start moves
      h.phase = .ready → h.isBlocked →
        E.hasPending h.engine = some false ∨ E.EndsInLapse s (called E start moves) := by
    intro moves h ready blocked
    simp only [isBlocked, Bool.and_eq_true, Bool.not_eq_true'] at blocked
    have quiet : h.phase ≠ .calling .poll := by simp [ready]
    exact idle_or_lapsed E s workers idle closes moves blocked.2 quiet
  refine ⟨law, fun settles calls lapses => ?_, fun never moves ready blocked => ?_⟩
  · obtain ⟨moves, -, ready, blocked, left⟩ := waits_after_lapse E s workers calls lapses
    exact left (settles moves ready blocked)
  · refine (law moves ready blocked).resolve_right fun lapsed => ?_
    obtain ⟨before, lapses⟩ := lapsed.exists_lapse
    exact never before lapses

/-- Polls of sources do not panic. -/
theorem no_work_left_by_sources :
    let start : Hub Sources := { engine := {}, mode := .onePool }
    let moves : List Move := .command (.request ⟨1⟩ [120]) :: List.replicate 7 .drive
    let h := after Sources.engine start moves
    h.isBlocked ∧ Sources.engine.hasPending h.engine = some false := by
  intro start moves h
  have never : ∀ calls, ¬ Sources.engine.PollLapses (Sources.engine.after {} calls) :=
    fun calls lapses => Option.some_ne_none _ lapses.1
  obtain ⟨-, settles⟩ :=
    waits_with_work_iff Sources.engine {} ⟨1, by decide⟩ rfl Sources.hasPending_close
  have blocked : h.isBlocked := by decide +kernel
  exact ⟨blocked, settles.mpr never moves (by decide +kernel) blocked⟩

/-- The first of two requests makes the next poll panic, and the other one is still to be given back
    when the driver goes to wait. -/
theorem work_left_by_panicking_poll :
    let start : Hub Scripted := { engine := { script := .trickle 1 }, mode := .onePool }
    let moves : List Move := [.command (.request ⟨1⟩ (Bytes.ofString "arm-poll-panic")),
      .command (.request ⟨2⟩ [120]), .drive, .drive, .drive, .drive, .drive, .drive, .drive]
    let h := after Scripted.engine start moves
    Scripted.engine.hasPending start.engine = some false ∧
    (∀ s id, Scripted.engine.hasPending s = some false →
      Scripted.engine.hasPending (Scripted.engine.close s id).state = some false) ∧
    h.phase = .ready ∧ h.isBlocked ∧ h.engine.queued = [⟨⟨2⟩, [120]⟩] ∧
    Scripted.engine.hasPending h.engine = some true := by
  intro start moves h
  refine ⟨rfl, Scripted.hasPending_close, ?_, ?_, ?_, ?_⟩ <;> decide +kernel

end Hub

end SessionHub
