import SessionHub.Engine.Sources
import SessionHub.Proofs.Engine.Transcript
import SessionHub.Proofs.Hub.Run
import SessionHub.Proofs.Hub.Step

set_option autoImplicit false

/-! # The calls that the driver makes

The engine is called for the commands that were accepted, in the order in which they were, up to the
first that stops the driver; between them come the polls that the driver has scheduled for itself,
each begun when the queue was empty (`calls_follow_commands`). As long as the driver runs, the
commands that it has begun to carry out and those in the queue are together all that were accepted
(`Account`). -/

namespace SessionHub.Hub

variable {σ : Type} (E : Engine σ)

/-! ## What can be seen of a run -/

/-- Session `k`, if it is open. -/
def openSession? (h : Hub σ) (k : Nat) : Option Session :=
  h.sessions[k]?.filter fun s => !s.closed

/-- The command that a move sends. -/
def Move.sends? (h : Hub σ) : Move → Option Command
  | .command c => some c
  | .request k bytes => (h.openSession? k).map fun s => .request s.id bytes
  | .poll k => (h.openSession? k).map fun _ => .poll
  | .close k | .drop k => (h.openSession? k).map fun s => .close s.id
  | _ => none

/-- The command that a move sends with success. -/
def Move.accepted (h : Hub σ) (m : Move) : List Command :=
  (m.sends? h).toList.filter fun c => (h.send c).2.isOk

/-- The commands that were accepted in a run, in order. -/
def accepted (h : Hub σ) (moves : List Move) : List Command :=
  Run.seen (move E) (fun h m => m.accepted h) h moves

/-- The call that the driver is in. -/
def inCall (h : Hub σ) : List Invocation :=
  match h.phase with
  | .calling call => [call]
  | _ => []

/-- The call of the engine that a move makes. -/
def Move.called (h : Hub σ) : Move → List Invocation
  | .drive => h.inCall
  | _ => []

/-- The calls of the engine that were made in a run, in order. -/
def called (h : Hub σ) (moves : List Move) : List Invocation :=
  Run.seen (move E) (fun h m => m.called h) h moves

/-- A call that the driver begins. -/
structure Beginning where
  call : Invocation
  /-- Whether the queue was empty then. -/
  queueEmpty : Bool
  deriving DecidableEq, Repr

/-- The call that the driver begins with a move. -/
def Move.begun (h : Hub σ) (m : Move) : List Beginning :=
  match m, h.phase, (h.step E).phase with
  | .drive, .ready, .calling call => [⟨call, h.queue.isEmpty⟩]
  | _, _, _ => []

/-- The calls that the driver has begun in a run, in order. -/
def begun (h : Hub σ) (moves : List Move) : List Beginning :=
  Run.seen (move E) (fun h m => m.begun E h) h moves

/-- The commands that were carried out by some calls. -/
def Beginning.ordered (bs : List Beginning) : List Command :=
  (bs.filter fun b => !b.queueEmpty).map fun b => b.call.command

@[simp] theorem Beginning.ordered_append (bs more : List Beginning) :
    ordered (bs ++ more) = ordered bs ++ ordered more := by
  simp only [ordered, List.filter_append, List.map_append]

/-- The commands before the first that stops the driver. -/
def due (cs : List Command) : List Command :=
  cs.takeWhile (· ≠ .shutdown)

theorem Beginning.due_ordered_append (bs : List Beginning) (cs : List Command) :
    due (ordered bs ++ cs) = ordered bs ++ due cs := by
  refine List.takeWhile_append_of_pos fun c hc => ?_
  obtain ⟨b, -, rfl⟩ := List.mem_map.mp hc
  cases b.call <;> rfl

/-! ## Moves from outside -/

theorem isOk_send (h : Hub σ) (c : Command) : (h.send c).2.isOk = h.isRunning := by
  unfold send
  cases h.isRunning <;> rfl

theorem accepted_eq (h : Hub σ) (m : Move) :
    m.accepted h = if h.isRunning then (m.sends? h).toList else [] := by
  simp only [Move.accepted, isOk_send]
  cases h.isRunning <;> simp

/-- Whether `h'` is `h` with more commands in the queue, as far as the driver is concerned. -/
structure Queued (h h' : Hub σ) (more : List Command) : Prop where
  engine : h'.engine = h.engine
  phase : h'.phase = h.phase
  queue : h'.queue = h.queue ++ more

theorem queued_nothing {h h' : Hub σ} (engine : h'.engine = h.engine) (phase : h'.phase = h.phase)
    (queue : h'.queue = h.queue) : Queued h h' [] :=
  ⟨engine, phase, queue.trans (List.append_nil _).symm⟩

theorem Queued.commands {h h' : Hub σ} {more : List Command} (q : Queued h h' more) :
    h'.commands = h.commands ++ more := by
  unfold Hub.commands
  rw [q.phase, q.queue]
  cases h.phase <;> rfl

theorem queued_send (h : Hub σ) (c : Command) :
    Queued h (h.send c).1 (if h.isRunning then [c] else []) := by
  unfold send
  cases h.isRunning with
  | true => exact ⟨rfl, rfl, rfl⟩
  | false => exact queued_nothing rfl rfl rfl

/-- A command that is sent only if the driver runs, after something that does not concern it. -/
theorem queued_send_of_same {h h' : Hub σ} (engine : h'.engine = h.engine)
    (phase : h'.phase = h.phase) (queue : h'.queue = h.queue) (c : Command) :
    Queued h (if h'.isRunning then (h'.send c).1 else h') (if h.isRunning then [c] else []) := by
  have running : h'.isRunning = h.isRunning := by rw [isRunning, phase, isRunning]
  rw [running]
  split
  · next yes =>
    have sent := h'.queued_send c
    rw [running, if_pos yes] at sent
    exact ⟨sent.engine.trans engine, sent.phase.trans phase, by rw [sent.queue, queue]⟩
  · exact queued_nothing engine phase queue

theorem openSession?_of_missing {h : Hub σ} {k : Nat} (missing : h.sessions[k]? = none) :
    h.openSession? k = none := by
  simp [openSession?, missing]

theorem openSession?_of_closed {h : Hub σ} {k : Nat} {s : Session} (found : h.sessions[k]? = some s)
    (closed : s.closed) : h.openSession? k = none := by
  simp [openSession?, found, Option.filter_some, closed]

theorem openSession?_of_open {h : Hub σ} {k : Nat} {s : Session} (found : h.sessions[k]? = some s)
    (live : ¬ s.closed) : h.openSession? k = some s := by
  simp [openSession?, found, Option.filter_some, live]

/-- Nothing is sent for a session that is not open. -/
theorem queued_of_none {h : Hub σ} {k : Nat} (none_open : h.openSession? k = none)
    (command : SessionId → Command) :
    Queued h h
      (if h.isRunning then ((h.openSession? k).map fun s => command s.id).toList else []) := by
  rw [none_open, Option.map_none, Option.toList_none, ite_self]
  exact queued_nothing rfl rfl rfl

theorem queued_sendFor (h : Hub σ) (k : Nat) (command : SessionId → Command) :
    Queued h (h.sendFor k command).1
      (if h.isRunning then ((h.openSession? k).map fun s => command s.id).toList else []) := by
  unfold sendFor
  cases found : h.sessions[k]? with
  | none => exact queued_of_none (openSession?_of_missing found) command
  | some s =>
    by_cases closed : s.closed
    · simp only [closed, if_true]
      exact queued_of_none (openSession?_of_closed found closed) command
    · rw [openSession?_of_open found closed]
      simp only [closed, Bool.false_eq_true, if_false]
      exact h.queued_send (command s.id)

theorem queued_close (h : Hub σ) (k : Nat) :
    Queued h (h.close k)
      (if h.isRunning then ((h.openSession? k).map fun s => .close s.id).toList else []) := by
  unfold close
  cases found : h.sessions[k]? with
  | none => exact queued_of_none (openSession?_of_missing found) .close
  | some s =>
    by_cases closed : s.closed
    · simp only [closed, if_true]
      exact queued_of_none (openSession?_of_closed found closed) .close
    · rw [openSession?_of_open found closed]
      simp only [closed, Bool.false_eq_true, if_false]
      -- the session is marked and struck off before the command is sent
      let marked : Hub σ :=
        { h with sessions := h.sessions.modify k fun s => { s with closed := true } }
      have sent := @queued_send_of_same σ h (marked.strike s.id).1 rfl rfl rfl (.close s.id)
      exact ⟨sent.engine, sent.phase, sent.queue⟩

/-- A move that is not the driver's only adds to the queue what is accepted. -/
theorem queued_move (h : Hub σ) {m : Move} (outside : m ≠ .drive) :
    Queued h (h.move E m) (m.accepted h) := by
  rw [accepted_eq]
  have nothing : ∀ h' : Hub σ, h'.engine = h.engine → h'.phase = h.phase → h'.queue = h.queue →
      Queued h h' (if h.isRunning then (none : Option Command).toList else []) := by
    intro h' engine phase queue
    simpa using queued_nothing engine phase queue
  cases m with
  | drive => exact absurd rfl outside
  | command c => exact h.queued_send c
  | retain => exact nothing _ rfl rfl rfl
  | letGo => exact nothing _ rfl rfl rfl
  | openMailbox => exact nothing _ rfl rfl rfl
  | request k bytes => exact h.queued_sendFor k (.request · bytes)
  | poll k => exact h.queued_sendFor k fun _ => .poll
  | close k => exact h.queued_close k
  | drop k =>
    have closed := h.queued_close k
    exact ⟨closed.engine, closed.phase, closed.queue⟩
  | read k =>
    simp only [move, read?]
    split <;> exact nothing _ rfl rfl rfl
  | readAll k => exact nothing _ rfl rfl rfl
  | leave k => exact nothing _ rfl rfl rfl
  | enrol callback => exact nothing _ rfl rfl rfl
  | strike id => exact nothing _ rfl rfl rfl
  | beginDelivery id bytes => exact nothing _ rfl rfl rfl
  | completeDelivery i =>
    obtain ⟨mailboxes, log, completed, -, -⟩ := h.completeDelivery_eq i
    rw [move, completed]
    exact nothing _ rfl rfl rfl
  | log records => exact nothing _ rfl rfl rfl

/-! ## What a step of the driver begins -/

theorem called_of_outside (h : Hub σ) {m : Move} (outside : m ≠ .drive) : m.called h = [] := by
  cases m <;> first | exact absurd rfl outside | rfl

theorem begun_of_outside (h : Hub σ) {m : Move} (outside : m ≠ .drive) : m.begun E h = [] := by
  cases m <;> first | exact absurd rfl outside | rfl

theorem inCall_of_calling {h : Hub σ} {call : Invocation} (calling : h.phase = .calling call) :
    h.inCall = [call] := by
  rw [inCall, calling]

theorem inCall_eq_nil {h : Hub σ} (other : ∀ call, h.phase ≠ .calling call) : h.inCall = [] := by
  unfold inCall
  split
  · next call calling => exact absurd calling (other call)
  · rfl

theorem begun_of_not_ready {h : Hub σ} (busy : h.phase ≠ .ready) (m : Move) : m.begun E h = [] := by
  unfold Move.begun
  split
  · next ready _ => exact absurd ready busy
  · rfl

theorem begun_of_ready {h : Hub σ} (ready : h.phase = .ready) {call : Invocation}
    (calling : h.take.phase = .calling call) :
    Move.begun E h .drive = [⟨call, h.queue.isEmpty⟩] := by
  have step : h.step E = h.take := by simp only [step, ready]
  simp only [Move.begun, step, ready, calling]

theorem begun_of_idle {h : Hub σ} (ready : h.phase = .ready)
    (other : ∀ call, h.take.phase ≠ .calling call) : Move.begun E h .drive = [] := by
  have step : h.step E = h.take := by simp only [step, ready]
  unfold Move.begun
  split
  · next call _ _ calling => exact absurd (step ▸ calling) (other call)
  · rfl

/-- What a call leaves. -/
theorem finish_frame (h : Hub σ) (call : Invocation) :
    (h.finish E call).engine = (E.invoke h.engine call).state ∧
    (h.finish E call).inCall = [] ∧ (h.finish E call).phase ≠ .stopped ∧
    ((h.finish E call).isRunning → (h.finish E call).queue = h.queue) := by
  cases result : (E.invoke h.engine call).result with
  | some answer =>
    rw [finish_of_answer E result]
    unfold accept inCall
    cases answer.responses <;> exact ⟨rfl, rfl, by rintro ⟨⟩, fun _ => rfl⟩
  | none =>
    simp only [finish, invoke_eq, result]
    split
    · next same => cases same
    · cases call <;> exact ⟨rfl, rfl, by rintro ⟨⟩, fun _ => rfl⟩
    · exact ⟨rfl, rfl, by rintro ⟨⟩, by rintro ⟨⟩⟩

/-! ## The invariant -/

/-- How the commands that were accepted, the calls that were begun and the calls that were made
    stand to each other in a hub whose engine was in the state `s` at first. -/
structure Account (s : σ) (h : Hub σ) (accepted : List Command) (begun : List Beginning)
    (called : List Invocation) : Prop where
  /-- Nothing happens to the engine but these calls. -/
  engine : h.engine = E.after s called
  /-- A call that was begun is made before the next one begins. -/
  calls : called ++ h.inCall = begun.map (·.call)
  polls : ∀ b ∈ begun, b.queueEmpty → b.call = .poll
  running : h.isRunning → Beginning.ordered begun ++ h.queue = accepted
  carried : Beginning.ordered begun <+: due accepted
  stopped : h.phase = .stopped → Beginning.ordered begun = due accepted

namespace Account

variable {E} {s : σ} {h : Hub σ} {accepted : List Command} {begun : List Beginning}
  {called : List Invocation}

/-- As long as the driver runs, the commands that are due are those that were carried out and those
    in the queue before the first that stops it. -/
theorem due_of_running (a : Account E s h accepted begun called) (running : h.isRunning) :
    due accepted = Beginning.ordered begun ++ due h.queue := by
  rw [← a.running running, Beginning.due_ordered_append]

/-- Steps that neither begin nor make a call. -/
theorem of_same (a : Account E s h accepted begun called) {h' : Hub σ}
    (engine : h'.engine = h.engine) (queue : h'.queue = h.queue) (calls : h'.inCall = h.inCall)
    (running : h'.isRunning → h.isRunning) (stopped : h'.phase = .stopped → h.phase = .stopped) :
    Account E s h' accepted begun called where
  engine := engine.trans a.engine
  calls := calls ▸ a.calls
  polls := a.polls
  running yes := queue ▸ a.running (running yes)
  carried := a.carried
  stopped yes := a.stopped (stopped yes)

/-- Commands are accepted as long as the driver runs. -/
theorem queued (a : Account E s h accepted begun called) {h' : Hub σ} {more : List Command}
    (q : Queued h h' more) (taken : ¬ h.isRunning → more = []) :
    Account E s h' (accepted ++ more) begun called := by
  have calls : h'.inCall = h.inCall := by rw [inCall, q.phase, inCall]
  have same : h'.isRunning = h.isRunning := by rw [isRunning, q.phase, isRunning]
  by_cases running : h.isRunning
  · have whole : Beginning.ordered begun ++ h'.queue = accepted ++ more := by
      rw [q.queue, ← List.append_assoc, a.running running]
    exact {
      engine := q.engine.trans a.engine
      calls := calls ▸ a.calls
      polls := a.polls
      running := fun _ => whole
      carried := by
        rw [← whole, Beginning.due_ordered_append]
        exact List.prefix_append _ _
      stopped := fun stopped => by
        rw [q.phase] at stopped
        simp [isRunning, stopped] at running }
  · rw [taken running, List.append_nil]
    exact a.of_same q.engine (by rw [q.queue, taken running, List.append_nil]) calls
      (same ▸ id) (q.phase ▸ id)

/-- The driver begins a call for the command at the front of the queue. -/
theorem beginOrdered (a : Account E s h accepted begun called) (running : h.isRunning)
    (idle : h.inCall = []) {call : Invocation} {queue : List Command}
    (front : h.queue = call.command :: queue) {h' : Hub σ} (engine : h'.engine = h.engine)
    (queue' : h'.queue = queue) (calling : h'.phase = .calling call) :
    Account E s h' accepted (begun ++ [⟨call, false⟩]) called := by
  have one : Beginning.ordered [⟨call, false⟩] = [call.command] := rfl
  have whole : Beginning.ordered (begun ++ [⟨call, false⟩]) ++ h'.queue = accepted := by
    rw [Beginning.ordered_append, one, queue', List.append_assoc, ← a.running running, front]
    rfl
  exact {
    engine := engine.trans a.engine
    calls := by
      rw [inCall_of_calling calling, List.map_append, ← a.calls, idle, List.append_nil]
      rfl
    polls := by
      intro b hb empty
      rcases List.mem_append.mp hb with hb | hb
      · exact a.polls b hb empty
      · rw [List.mem_singleton.mp hb] at empty
        cases empty
    running := fun _ => whole
    carried := by
      rw [← whole, Beginning.due_ordered_append]
      exact List.prefix_append _ _
    stopped := fun stopped => by rw [calling] at stopped; cases stopped }

/-- The driver begins a poll that it has scheduled for itself, as the queue is empty. -/
theorem beginPoll (a : Account E s h accepted begun called) (running : h.isRunning)
    (idle : h.inCall = []) {h' : Hub σ} (engine : h'.engine = h.engine)
    (queue : h'.queue = h.queue) (calling : h'.phase = .calling .poll) :
    Account E s h' accepted (begun ++ [⟨.poll, true⟩]) called := by
  have same : Beginning.ordered (begun ++ [⟨.poll, true⟩]) = Beginning.ordered begun := by
    rw [Beginning.ordered_append]
    exact List.append_nil _
  exact {
    engine := engine.trans a.engine
    calls := by
      rw [inCall_of_calling calling, List.map_append, ← a.calls, idle, List.append_nil]
      rfl
    polls := by
      intro b hb empty
      rcases List.mem_append.mp hb with hb | hb
      · exact a.polls b hb empty
      · rw [List.mem_singleton.mp hb]
    running := fun _ => by rw [same, queue, a.running running]
    carried := same ▸ a.carried
    stopped := fun stopped => by rw [calling] at stopped; cases stopped }

/-- The driver makes the call that it has begun. -/
theorem makeCall (a : Account E s h accepted begun called) {call : Invocation}
    (calling : h.phase = .calling call) :
    Account E s (h.finish E call) accepted begun (called ++ [call]) := by
  obtain ⟨engine, done, going, queue⟩ := finish_frame E h call
  have running : h.isRunning := by rw [isRunning, calling]
  exact {
    engine := by rw [engine, E.after_concat, ← a.engine]
    calls := by rw [done, List.append_nil, ← inCall_of_calling calling, a.calls]
    polls := a.polls
    running := fun yes => by rw [queue yes, a.running running]
    carried := a.carried
    stopped := fun stopped => absurd stopped going }

/-- The driver stops if there is no command, or at a command that tells it to. -/
theorem stop (a : Account E s h accepted begun called) (running : h.isRunning)
    (idle : h.inCall = []) (nothing : due h.queue = []) {h' : Hub σ} (engine : h'.engine = h.engine)
    (stopped : h'.phase = .stopped) : Account E s h' accepted begun called := by
  have whole : Beginning.ordered begun = due accepted := by
    rw [a.due_of_running running, nothing, List.append_nil]
  have idle' : h'.inCall = [] := by rw [inCall, stopped]
  exact {
    engine := engine.trans a.engine
    calls := by rw [idle', ← idle, a.calls]
    polls := a.polls
    running := fun yes => by simp [isRunning, stopped] at yes
    carried := a.carried
    stopped := fun _ => whole }

/-- One step of the driver. -/
theorem drive (a : Account E s h accepted begun called) :
    Account E s (h.step E) accepted (begun ++ Move.begun E h .drive) (called ++ h.inCall) := by
  -- outside of the phases that begin and make calls
  have quiet : h.phase ≠ .ready → h.inCall = [] → Account E s (h.step E) accepted begun called →
      Account E s (h.step E) accepted (begun ++ Move.begun E h .drive) (called ++ h.inCall) := by
    intro busy idle a'
    rwa [begun_of_not_ready E busy, idle, List.append_nil, List.append_nil]
  cases hp : h.phase with
  | starting =>
    have idle : h.inCall = [] := by rw [inCall, hp]
    refine quiet (by simp [hp]) idle ?_
    have running : h.isRunning := by rw [isRunning, hp]
    simp only [step, hp, start]
    cases h.mode <;> exact a.of_same rfl rfl idle.symm (fun _ => running) (by rintro ⟨⟩)
  | ready =>
    have idle : h.inCall = [] := by rw [inCall, hp]
    have running : h.isRunning := by rw [isRunning, hp]
    have step : h.step E = h.take := by simp only [step, hp]
    rw [idle, List.append_nil, step]
    rcases take_cases h with ⟨call, queue, front, taken⟩ | ⟨queue, front, taken⟩ | ⟨empty, -, taken⟩
      | ⟨empty, -, -, taken⟩ | ⟨-, taken⟩
    · rw [begun_of_ready E hp (by rw [taken]), front, taken]
      exact a.beginOrdered running idle front rfl rfl rfl
    · rw [begun_of_idle E hp (by rw [taken]; rintro _ ⟨⟩), List.append_nil, taken]
      exact a.stop running idle (by rw [front]; rfl) rfl rfl
    · rw [begun_of_idle E hp (by rw [taken]; rintro _ ⟨⟩), List.append_nil, taken]
      exact a.stop running idle (by rw [empty]; rfl) rfl rfl
    · rw [begun_of_ready E hp (by rw [taken]), empty, taken]
      exact a.beginPoll running idle rfl rfl rfl
    · rw [begun_of_idle E hp (by rw [taken, hp]; rintro _ ⟨⟩), List.append_nil, taken]
      exact a
  | calling call =>
    have step : h.step E = h.finish E call := by simp only [step, hp]
    rw [begun_of_not_ready E (by simp [hp]), List.append_nil, inCall_of_calling hp, step]
    exact a.makeCall hp
  | routing responses =>
    have idle : h.inCall = [] := by rw [inCall, hp]
    have running : h.isRunning := by rw [isRunning, hp]
    refine quiet (by simp [hp]) idle ?_
    simp only [step, hp]
    cases responses <;> exact a.of_same rfl rfl idle.symm (fun _ => running) (by rintro ⟨⟩)
  | delivering d rest =>
    have idle : h.inCall = [] := by rw [inCall, hp]
    have running : h.isRunning := by rw [isRunning, hp]
    refine quiet (by simp [hp]) idle ?_
    obtain ⟨mailboxes, log, passed, -, -⟩ := h.pass_eq d rest
    simp only [step, hp, passed]
    cases rest <;> exact a.of_same rfl rfl idle.symm (fun _ => running) (by rintro ⟨⟩)
  | stopped =>
    refine quiet (by simp [hp]) (by rw [inCall, hp]) ?_
    simp only [step, hp]
    exact a
  | broken =>
    refine quiet (by simp [hp]) (by rw [inCall, hp]) ?_
    simp only [step, hp]
    exact a

/-- One move. -/
theorem move (a : Account E s h accepted begun called) (m : Move) :
    Account E s (h.move E m) (accepted ++ m.accepted h) (begun ++ m.begun E h)
      (called ++ m.called h) := by
  by_cases inside : m = .drive
  · subst inside
    have nothing : Move.drive.accepted h = [] := rfl
    rw [nothing, List.append_nil]
    exact a.drive
  · rw [begun_of_outside E h inside, called_of_outside h inside, List.append_nil, List.append_nil]
    refine a.queued (queued_move E h inside) fun past => ?_
    rw [accepted_eq, if_neg past]

/-- Any number of moves. -/
theorem moves (a : Account E s h accepted begun called) (more : List Move) :
    Account E s (Hub.after E h more) (accepted ++ Hub.accepted E h more)
      (begun ++ Hub.begun E h more) (called ++ Hub.called E h more) := by
  induction more generalizing h accepted begun called with
  | nil =>
    have nothing : Hub.accepted E h [] = [] ∧ Hub.begun E h [] = [] ∧ Hub.called E h [] = [] :=
      ⟨rfl, rfl, rfl⟩
    rw [nothing.1, nothing.2.1, nothing.2.2, List.append_nil, List.append_nil, List.append_nil]
    exact a
  | cons m more ih =>
    have later := ih (a.move m)
    simp only [List.append_assoc] at later
    exact later

end Account

theorem account_start (s : σ) (mode : Mode) : Account E s { engine := s, mode } [] [] [] where
  engine := rfl
  calls := rfl
  polls := nofun
  running _ := rfl
  carried := List.prefix_rfl
  stopped := nofun

theorem account_after (s : σ) (mode : Mode) (moves : List Move) :
    let start : Hub σ := { engine := s, mode }
    Account E s (after E start moves) (accepted E start moves) (begun E start moves)
      (called E start moves) :=
  (account_start E s mode).moves moves

/-! ## Calls and commands -/

/-- If the driver begins nothing but polls when the queue is empty, then all calls but polls are
    made by command. -/
theorem Beginning.filter_ordered (bs : List Beginning)
    (polls : ∀ b ∈ bs, b.queueEmpty → b.call = .poll) :
    (ordered bs).filter (· ≠ .poll) =
      ((bs.map (·.call)).filter (· ≠ .poll)).map Invocation.command := by
  induction bs with
  | nil => rfl
  | cons b bs ih =>
    have rest := ih fun b' hb' => polls b' (List.mem_cons_of_mem b hb')
    obtain ⟨call, queueEmpty⟩ := b
    have split : ordered (⟨call, queueEmpty⟩ :: bs) =
        ordered [⟨call, queueEmpty⟩] ++ ordered bs := ordered_append [_] bs
    rw [split, List.filter_append, rest, List.map_cons]
    cases queueEmpty with
    | true =>
      obtain rfl : call = .poll := polls _ List.mem_cons_self rfl
      rfl
    | false => cases call <;> rfl

/-! ## After the driver has stopped -/

theorem inCall_of_not_running {h : Hub σ} (past : ¬ h.isRunning) : h.inCall = [] :=
  inCall_eq_nil fun call calling => past (by rw [isRunning, calling])

/-- A driver that has stopped does not run again, whatever happens. -/
theorem not_running_move {h : Hub σ} (past : ¬ h.isRunning) (m : Move) :
    ¬ (h.move E m).isRunning := by
  by_cases inside : m = .drive
  · subst inside
    exact fun running => past (running_of_step running)
  · have phase := (queued_move E h inside).phase
    rwa [isRunning, phase, ← isRunning]

theorem not_running_after {h : Hub σ} (past : ¬ h.isRunning) (moves : List Move) :
    ¬ (after E h moves).isRunning :=
  Run.after_induction (Hub.move E) (motive := fun _ h => ¬ h.isRunning) h past
    (fun _ m past => not_running_move E past m) moves

/-- A driver that has stopped makes no call any more. -/
theorem called_of_not_running {h : Hub σ} (past : ¬ h.isRunning) (moves : List Move) :
    called E h moves = [] := by
  refine Run.after_induction (Hub.move E) (motive := fun moves _ => called E h moves = []) h rfl ?_
    moves
  intro moves m none_so_far
  have past' := not_running_after E past moves
  have none_now : m.called (after E h moves) = [] := by
    cases m with
    | drive => exact inCall_of_not_running past'
    | _ => rfl
  rw [called, Run.seen_concat, ← called, none_so_far]
  exact none_now

/-! ## The law -/

/-- In every run, whether calls panic or not: the calls of the engine other than polls are, in
    order, the first of the accepted commands before the first `shutdown`, and all of them in the
    phase `.stopped`. Each other call is a poll, either for a `poll` command in its place in the
    queue or begun while the queue was empty. Once `isRunning` fails, every `send` fails with
    `notRunning`, logs one error and changes nothing else, and no call is made any more. -/
theorem calls_follow_commands (s : σ) (mode : Mode) (moves : List Move) :
    let start : Hub σ := { engine := s, mode }
    let h := after E start moves
    let commands := due (accepted E start moves)
    let calls := called E start moves
    let beginnings := begun E start moves
    h.engine = E.after s calls ∧
    (calls.filter (· ≠ .poll)).map Invocation.command <+: commands.filter (· ≠ .poll) ∧
    (h.phase = .stopped →
      (calls.filter (· ≠ .poll)).map Invocation.command = commands.filter (· ≠ .poll) ∧
      Beginning.ordered beginnings = commands) ∧
    calls ++ h.inCall = beginnings.map (·.call) ∧
    Beginning.ordered beginnings <+: commands ∧
    (∀ b ∈ beginnings, b.queueEmpty → b.call = .poll) ∧
    (¬ h.isRunning → ∀ (c : Command) (more : List Move),
      (h.send c).2 = .error .notRunning ∧
      (h.send c).1 = h.note (.commandDiscarded c) ∧ (Record.commandDiscarded c).level = .error ∧
      called E (h.send c).1 more = [] ∧ ¬ (after E (h.send c).1 more).isRunning) := by
  intro start h commands calls beginnings
  have a : Account E s h (accepted E start moves) beginnings calls := account_after E s mode moves
  have work := Beginning.filter_ordered beginnings a.polls
  refine ⟨a.engine, ?_, fun stopped => ⟨?_, a.stopped stopped⟩, a.calls, a.carried, a.polls, ?_⟩
  · -- a call that was begun and not made yet is the last one
    have made : calls <+: beginnings.map (·.call) := ⟨h.inCall, a.calls⟩
    exact ((made.filter _).map _).trans (work ▸ a.carried.filter _)
  · have idle : h.inCall = [] := by rw [inCall, stopped]
    have made : calls = beginnings.map (·.call) := by rw [← a.calls, idle, List.append_nil]
    rw [made, ← work, a.stopped stopped]
  · intro past c more
    have refused := send_of_not_running past c
    have past' : ¬ (h.send c).1.isRunning := by rwa [isRunning_send]
    exact ⟨by rw [refused], by rw [refused], rfl, called_of_not_running E past' more,
      not_running_after E past' more⟩

/-- A request, a closing and a shutdown, each sent while the driver is at work, and a request that
    comes too late. -/
theorem calls_of_one_shutdown :
    let start : Hub Sources := { engine := {}, mode := .onePool }
    let moves : List Move := [.command (.request ⟨1⟩ [120]), .drive, .drive, .command (.close ⟨1⟩),
      .drive, .drive, .drive, .command .shutdown, .command (.request ⟨2⟩ [121]), .drive]
    let h := after Sources.engine start moves
    h.phase = .stopped ∧
    ((called Sources.engine start moves).filter (· ≠ .poll)).map Invocation.command =
      [.request ⟨1⟩ [120], .close ⟨1⟩] := by
  intro start moves h
  have stopped : h.phase = .stopped := by decide +kernel
  obtain ⟨-, -, whole, -⟩ := calls_follow_commands Sources.engine {} .onePool moves
  have commands : (due (accepted Sources.engine start moves)).filter (· ≠ .poll) =
      [.request ⟨1⟩ [120], .close ⟨1⟩] := by decide +kernel
  exact ⟨stopped, (whole stopped).1.trans commands⟩

end SessionHub.Hub
