import SessionHub.Proofs.Hub.Calls
import SessionHub.Proofs.Hub.Polls

set_option autoImplicit false

/-! # How a driver comes to rest

A driver that is sent no more commands carries out what is in its queue, one call a command, and
then polls on its own until its engine has no work left. For a hub that hosts sources this takes as
many polls as the queued responses need, a batch each, and at least one if a poll is scheduled at
all (`driver_comes_to_rest`).

Both parts have a measure that each step of the driver makes smaller. As long as there are commands
it is `effort`, and afterwards `remaining`. -/

namespace SessionHub

/-- How many steps a driver of sources takes until it is ready again, at most. -/
def Phase.weight : Phase → Nat
  | starting => 1
  | calling _ => 2 * Sources.batch + 2
  | delivering _ rest => 2 * rest.length + 2
  | routing rest => 2 * rest.length + 1
  | ready | stopped | broken => 0

namespace Hub

variable {σ : Type}

/-! ## What can be seen of a run -/

/-- The response that a move hands out. -/
def Move.routed (h : Hub σ) : Move → List Response
  | .drive => h.passing
  | _ => []

/-- The responses that the driver has handed out in a run, in order. -/
def routed (E : Engine σ) (h : Hub σ) (moves : List Move) : List Response :=
  Run.seen (move E) (fun h m => m.routed h) h moves

/-- Whether a move is a step of the driver. -/
def Move.isDrive : Move → Bool
  | .drive => true
  | _ => false

/-- How many steps the driver takes in a run. -/
def drives (moves : List Move) : Nat :=
  moves.countP Move.isDrive

theorem drives_replicate (n : Nat) : drives (List.replicate n .drive) = n := by
  simp [drives, List.countP_replicate, Move.isDrive]

/-- Whether a run leaves the driver alone: no command is accepted, and at any time a handle is
    left. -/
structure Undisturbed (E : Engine σ) (h : Hub σ) (moves : List Move) : Prop where
  quiet : accepted E h moves = []
  held : ∀ first, first <+: moves → 0 < (after E h first).handles

/-- The calls that were begun in a run and made are those that the driver was in or has begun. -/
theorem called_append_inCall (E : Engine σ) (s : σ) (mode : Mode) (moves more : List Move) :
    let h := after E { engine := s, mode } moves
    called E h more ++ (after E h more).inCall = h.inCall ++ (begun E h more).map (·.call) := by
  intro h
  have before := (account_after E s mode moves).calls
  have whole := (account_after E s mode (moves ++ more)).calls
  have calls : called E { engine := s, mode } (moves ++ more) =
      called E { engine := s, mode } moves ++ called E h more := Run.seen_append ..
  have beginnings : begun E { engine := s, mode } (moves ++ more) =
      begun E { engine := s, mode } moves ++ begun E h more := Run.seen_append ..
  have last : after E { engine := s, mode } (moves ++ more) = after E h more := Run.after_append ..
  rw [calls, beginnings, last, List.map_append, ← before, List.append_assoc,
    List.append_assoc] at whole
  exact List.append_cancel_left whole

namespace Undisturbed

variable {E : Engine σ} {h : Hub σ} {m : Move} {more : List Move}

theorem head (u : Undisturbed E h (m :: more)) : m.accepted h = [] ∧ 0 < h.handles := by
  refine ⟨?_, u.held [] List.nil_prefix⟩
  exact (List.append_eq_nil_iff.mp u.quiet).1

theorem tail (u : Undisturbed E h (m :: more)) : Undisturbed E (h.move E m) more where
  quiet := (List.append_eq_nil_iff.mp u.quiet).2
  held first starts := u.held (m :: first) ((List.prefix_cons_inj m).mpr starts)

theorem append_right {first : List Move} (u : Undisturbed E h (first ++ more)) :
    Undisturbed E (after E h first) more := by
  induction first generalizing h with
  | nil => exact u
  | cons m first ih => exact ih u.tail

/-- A run in which only the driver does anything. -/
theorem of_drives {h : Hub σ} (held : 0 < h.handles) (n : Nat) :
    Undisturbed E h (List.replicate n .drive) := by
  induction n generalizing h with
  | zero =>
    refine ⟨rfl, fun first starts => ?_⟩
    rw [List.prefix_nil.mp starts]
    exact held
  | succ n ih =>
    have rest := @ih (h.step E) (by rw [(h.step_frame E).handles]; exact held)
    refine ⟨rest.quiet, fun first starts => ?_⟩
    cases first with
    | nil => exact held
    | cons m first =>
      obtain ⟨rfl, shorter⟩ := List.cons_prefix_cons.mp (List.replicate_succ ▸ starts)
      exact rest.held first shorter

end Undisturbed

/-! ## Moves that leave the driver alone -/

/-- Whether `h'` is `h` as far as the driver is concerned. -/
structure Alike (h h' : Hub σ) : Prop where
  engine : h'.engine = h.engine
  phase : h'.phase = h.phase
  queue : h'.queue = h.queue
  pollScheduled : h'.pollScheduled = h.pollScheduled

theorem alike_move (E : Engine σ) (h : Hub σ) {m : Move} (outside : m ≠ .drive)
    (nothing : m.accepted h = []) : Alike h (h.move E m) where
  engine := (queued_move E h outside).engine
  phase := (queued_move E h outside).phase
  queue := by rw [(queued_move E h outside).queue, nothing, List.append_nil]
  pollScheduled := (scheduling_move E h outside).1

theorem isDrive_of_outside {m : Move} (outside : m ≠ .drive) : m.isDrive = false := by
  cases m <;> first | exact absurd rfl outside | rfl

theorem routed_of_outside (h : Hub σ) {m : Move} (outside : m ≠ .drive) : m.routed h = [] := by
  cases m <;> first | exact absurd rfl outside | rfl

/-! ## The commands in the queue -/

/-- How many steps a driver of sources takes until its queue is empty, at most. -/
def effort (h : Hub σ) : Nat :=
  (2 * Sources.batch + 3) * h.queue.length + h.phase.weight

/-- How much a driver of sources has to work on. -/
def load (h : Hub Sources) : Nat :=
  h.commands.length + h.engine.queued.length

/-- Sources answer any call, and with no more responses than one poll gives out. -/
theorem answer_of_sources (s : Sources) (call : Invocation) :
    ∃ answer, (Sources.engine.invoke s call).result = some answer ∧
      answer.responses.length ≤ Sources.batch := by
  cases call with
  | request id bytes => exact ⟨_, rfl, Nat.zero_le _⟩
  | poll => exact ⟨_, rfl, List.length_take_le _ _⟩
  | close id => exact ⟨_, rfl, Nat.zero_le _⟩

/-- A call leaves at most one more response queued. -/
theorem queued_invoke_le (s : Sources) (call : Invocation) :
    (Sources.engine.invoke s call).state.queued.length ≤ s.queued.length + 1 := by
  cases call with
  | request id bytes => exact Nat.le_of_eq List.length_append
  | poll => exact Nat.le_succ_of_le (List.length_drop ▸ Nat.sub_le _ _)
  | close id => exact Nat.le_succ_of_le (List.length_filter_le _ _)

theorem commands_of_not_calling {h : Hub σ} (past : ∀ call, h.phase ≠ .calling call) :
    h.commands = h.queue := by
  unfold commands
  split
  · next call calling => exact absurd calling (past call)
  · rfl

/-- What the driver does with an answer. -/
theorem finish_of_sources (h : Hub Sources) (call : Invocation) :
    ∃ answer, (Sources.engine.invoke h.engine call).result = some answer ∧
      (h.finish Sources.engine call).engine = (Sources.engine.invoke h.engine call).state ∧
      (h.finish Sources.engine call).queue = h.queue ∧
      (h.finish Sources.engine call).routing = answer.responses ∧
      (h.finish Sources.engine call).pollScheduled = answer.again.getD h.pollScheduled ∧
      (∀ call', (h.finish Sources.engine call).phase ≠ .calling call') ∧
      (h.finish Sources.engine call).isRunning ∧
      (h.finish Sources.engine call).phase.weight < 2 * Sources.batch + 2 := by
  obtain ⟨answer, result, few⟩ := answer_of_sources h.engine call
  refine ⟨answer, result, ?_⟩
  rw [finish_of_answer Sources.engine result]
  refine ⟨rfl, rfl, routing_accept _ _, rfl, ?_⟩
  unfold accept isRunning
  cases given : answer.responses with
  | nil => exact ⟨nofun, rfl, Nat.succ_pos _⟩
  | cons r rest =>
    refine ⟨nofun, rfl, ?_⟩
    rw [given] at few
    exact Nat.succ_lt_succ (Nat.lt_succ_of_le (Nat.mul_le_mul_left 2 few))

/-- A step from `h` to `h'` in which the driver neither takes a command nor makes a call. -/
structure Quiet (h h' : Hub σ) : Prop where
  engine : h'.engine = h.engine
  pollScheduled : h'.pollScheduled = h.pollScheduled
  queue : h'.queue = h.queue
  running : h'.isRunning
  uncalled : ∀ call, h'.phase ≠ .calling call
  lighter : h'.phase.weight < h.phase.weight
  /-- What is passed on is off the list. -/
  routing : h.passing ++ h'.routing = h.routing

/-- A driver that is neither ready nor in a call starts, or hands something out. -/
theorem quiet_step (E : Engine σ) {h : Hub σ} (running : h.isRunning) (unready : h.phase ≠ .ready)
    (uncalled : ∀ call, h.phase ≠ .calling call) : Quiet h (h.step E) := by
  cases hp : h.phase with
  | starting =>
    have idle : h.routing = [] := by rw [routing, hp]
    have nothing : h.passing ++ [] = h.routing := by
      rw [passing_of_routing_nil idle, idle, List.append_nil]
    simp only [step, hp, start]
    cases h.mode <;> exact ⟨rfl, rfl, rfl, rfl, by rintro _ ⟨⟩, hp ▸ Nat.lt_succ_self _, nothing⟩
  | ready => exact absurd hp unready
  | calling call => exact absurd hp (uncalled call)
  | routing responses =>
    have all : h.passing ++ responses = h.routing := by
      rw [passing_of_not_delivering (by simp [hp]), routing_of_routing hp, List.nil_append]
    simp only [step, hp]
    cases responses with
    | nil => exact ⟨rfl, rfl, rfl, rfl, by rintro _ ⟨⟩, hp ▸ Nat.lt_succ_self _, all⟩
    | cons r rest => exact ⟨rfl, rfl, rfl, rfl, by rintro _ ⟨⟩, hp ▸ Nat.lt_succ_self _, all⟩
  | delivering d rest =>
    have all : h.passing ++ rest = h.routing := by
      rw [passing_of_delivering hp, routing_of_delivering hp]
      rfl
    obtain ⟨mailboxes, log, passed, -, -⟩ := h.pass_eq d rest
    simp only [step, hp, passed]
    cases rest with
    | nil => exact ⟨rfl, rfl, rfl, rfl, by rintro _ ⟨⟩, hp ▸ Nat.succ_pos _, all⟩
    | cons r rest => exact ⟨rfl, rfl, rfl, rfl, by rintro _ ⟨⟩, hp ▸ Nat.lt_succ_self _, all⟩
  | stopped => simp [isRunning, hp] at running
  | broken => simp [isRunning, hp] at running

/-- One step of a driver that has something else to do than to wait or to poll on its own. -/
theorem carrying_step (h : Hub Sources) (running : h.isRunning) (goes_on : .shutdown ∉ h.queue)
    (busy : ¬ (h.phase = .ready ∧ h.queue = [])) :
    ∃ calls : List Invocation,
      h.queue = calls.map Invocation.command ++ (h.step Sources.engine).queue ∧
      Move.begun Sources.engine h .drive = calls.map (⟨·, false⟩) ∧
      (h.step Sources.engine).isRunning ∧ (h.step Sources.engine).load ≤ h.load ∧
      (h.step Sources.engine).effort < h.effort := by
  cases hp : h.phase with
  | ready =>
    have step : h.step Sources.engine = h.take := by simp only [step, hp]
    rcases take_cases h with ⟨call, queue, front, taken⟩ | ⟨queue, front, taken⟩ | ⟨empty, -, -⟩
      | ⟨empty, -, -, -⟩ | ⟨blocked, -⟩
    · refine ⟨[call], ?_⟩
      rw [begun_of_ready Sources.engine hp (by rw [taken]), step, taken, load, load,
        commands_of_ready hp, front, effort, effort, hp, front]
      refine ⟨rfl, rfl, rfl, Nat.le_refl _, ?_⟩
      simp only [List.length_cons, Phase.weight, Nat.mul_succ]
      omega
    · exact absurd (front ▸ List.mem_cons_self) goes_on
    · exact absurd ⟨hp, empty⟩ busy
    · exact absurd ⟨hp, empty⟩ busy
    · simp only [isBlocked, Bool.and_eq_true, List.isEmpty_iff] at blocked
      exact absurd ⟨hp, blocked.1.1⟩ busy
  | calling call =>
    obtain ⟨answer, -, engine, queue, -, -, past, still, light⟩ := finish_of_sources h call
    have commands : (h.finish Sources.engine call).commands = h.queue := by
      rw [← queue]
      exact commands_of_not_calling past
    refine ⟨[], ?_⟩
    rw [begun_of_not_ready Sources.engine (by simp [hp])]
    simp only [step, hp, effort, queue, load, commands, engine, commands_of_calling hp]
    refine ⟨rfl, rfl, still, ?_, Nat.add_lt_add_left light _⟩
    have more := queued_invoke_le h.engine call
    rw [List.length_cons]
    omega
  | _ =>
    have unready : h.phase ≠ .ready := by simp [hp]
    have uncalled : ∀ call, h.phase ≠ .calling call := by simp [hp]
    have quiet := quiet_step Sources.engine running unready uncalled
    have nothing := begun_of_not_ready Sources.engine unready .drive
    refine ⟨[], quiet.queue.symm, nothing, quiet.running, ?_, ?_⟩
    · refine Nat.le_of_eq ?_
      rw [load, load, commands_of_not_calling quiet.uncalled, commands_of_not_calling uncalled,
        quiet.queue, quiet.engine]
    · rw [effort, effort, quiet.queue]
      exact Nat.add_lt_add_left quiet.lighter _

theorem Alike.effort {h h' : Hub σ} (same : Alike h h') : h'.effort = h.effort := by
  rw [Hub.effort, same.queue, same.phase, Hub.effort]

theorem Alike.load {h h' : Hub Sources} (same : Alike h h') : h'.load = h.load := by
  rw [Hub.load, commands, same.phase, same.queue, same.engine, Hub.load, commands]

theorem Alike.isRunning {h h' : Hub σ} (same : Alike h h') : h'.isRunning = h.isRunning := by
  rw [Hub.isRunning, same.phase, Hub.isRunning]

/-- A driver that is not ready, or has commands, has something to do. -/
theorem effort_pos {h : Hub σ} (running : h.isRunning)
    (busy : ¬ (h.phase = .ready ∧ h.queue = [])) : 0 < h.effort := by
  unfold effort
  cases hp : h.phase with
  | ready =>
    have some_left := List.length_pos_iff.mpr fun empty => busy ⟨hp, empty⟩
    exact Nat.add_pos_left (Nat.mul_pos (Nat.succ_pos _) some_left) _
  | stopped => simp [isRunning, hp] at running
  | broken => simp [isRunning, hp] at running
  | _ => exact Nat.add_pos_right _ (Nat.succ_pos _)

/-- A driver that is left alone carries out its commands, one call each, and is then ready. -/
theorem commands_carried_out (h : Hub Sources) (more : List Move) (running : h.isRunning)
    (goes_on : .shutdown ∉ h.queue) (alone : Undisturbed Sources.engine h more)
    (enough : h.effort ≤ drives more) :
    ∃ (first rest : List Move) (calls : List Invocation), more = first ++ rest ∧
      drives more ≤ h.effort + drives rest ∧
      calls.map Invocation.command = h.queue ∧
      begun Sources.engine h first = calls.map (⟨·, false⟩) ∧
      (after Sources.engine h first).phase = .ready ∧ (after Sources.engine h first).queue = [] ∧
      (after Sources.engine h first).load ≤ h.load := by
  induction more generalizing h with
  | nil =>
    by_cases done : h.phase = .ready ∧ h.queue = []
    · exact ⟨[], [], [], rfl, Nat.zero_le _, done.2.symm, rfl, done.1, done.2, Nat.le_refl _⟩
    · exact absurd (Nat.lt_of_lt_of_le (effort_pos running done) enough) (Nat.lt_irrefl 0)
  | cons m more ih =>
    by_cases done : h.phase = .ready ∧ h.queue = []
    · exact ⟨[], m :: more, [], rfl, Nat.le_add_left _ _, done.2.symm, rfl, done.1, done.2,
        Nat.le_refl _⟩
    -- what is left to do after this move is done in the rest of the run
    by_cases inside : m = .drive
    · subst inside
      obtain ⟨now, front, beginning, still, lighter, less⟩ := carrying_step h running goes_on done
      have counted : drives (.drive :: more) = drives more + 1 := List.countP_cons_of_pos rfl
      have left : .shutdown ∉ (h.step Sources.engine).queue := by
        intro last
        exact goes_on (front ▸ List.mem_append_right _ last)
      obtain ⟨first, rest, calls, parts, steps, carried, begins, ready, empty, load⟩ :=
        ih (h.step Sources.engine) still left alone.tail (by omega)
      refine ⟨.drive :: first, rest, now ++ calls, by rw [parts]; rfl, by omega, ?_, ?_, ready, empty,
        Nat.le_trans load lighter⟩
      · rw [List.map_append, carried, ← front]
      · rw [begun, Run.seen_cons, List.map_append, ← begins]
        exact congrArg (· ++ _) beginning
    · have same := alike_move Sources.engine h inside alone.head.1
      have counted : drives (m :: more) = drives more :=
        List.countP_cons_of_neg (by simp [isDrive_of_outside inside])
      obtain ⟨first, rest, calls, parts, steps, carried, begins, ready, empty, load⟩ :=
        ih (h.move Sources.engine m) (same.isRunning ▸ running) (same.queue ▸ goes_on) alone.tail
          (by rw [same.effort]; omega)
      rw [same.effort] at steps
      refine ⟨m :: first, rest, calls, by rw [parts]; rfl, by omega, carried.trans same.queue, ?_,
        ready, empty, same.load ▸ load⟩
      rw [begun, Run.seen_cons, begun_of_outside Sources.engine h inside]
      exact begins

/-! ## The polls afterwards -/

/-- How many polls give out `n` responses. -/
def rounds (n : Nat) : Nat :=
  (n + (Sources.batch - 1)) / Sources.batch

/-- How many polls a driver of sources still begins on its own. -/
def pollsLeft (h : Hub Sources) : Nat :=
  match h.phase with
  | .calling _ => rounds (h.engine.queued.length - Sources.batch)
  | _ => if h.pollScheduled then max 1 (rounds h.engine.queued.length) else 0

/-- How many steps a driver of sources takes until it waits, at most. -/
def remaining (h : Hub Sources) : Nat :=
  (2 * Sources.batch + 3) * h.pollsLeft + h.phase.weight

/-- Whether a driver of sources does nothing any more but poll on its own. -/
structure Settling (h : Hub Sources) : Prop where
  running : h.isRunning
  queue : h.queue = []
  polls : ∀ call, h.phase = .calling call → call = .poll
  watchful : h.Watchful Sources.engine

theorem pollsLeft_of_calling {h : Hub Sources} {call : Invocation}
    (calling : h.phase = .calling call) :
    h.pollsLeft = rounds (h.engine.queued.length - Sources.batch) := by
  rw [pollsLeft, calling]

theorem pollsLeft_of_quiet {h : Hub Sources} (quiet : ∀ call, h.phase ≠ .calling call) :
    h.pollsLeft = if h.pollScheduled then max 1 (rounds h.engine.queued.length) else 0 := by
  unfold pollsLeft
  split
  · next call calling => exact absurd calling (quiet call)
  · rfl

/-- The poll that is begun takes a batch. -/
theorem rounds_sub (n : Nat) : rounds (n - Sources.batch) + 1 = max 1 (rounds n) := by
  simp only [rounds, Sources.batch]
  omega

theorem rounds_pos {n : Nat} (some_left : n ≠ 0) : max 1 (rounds n) = rounds n := by
  simp only [rounds, Sources.batch]
  omega

namespace Settling

variable {h : Hub Sources}

theorem of_alike (z : h.Settling) {h' : Hub Sources} (same : Alike h h') : h'.Settling where
  running := same.isRunning ▸ z.running
  queue := same.queue.trans z.queue
  polls := by
    rw [same.phase]
    exact z.polls
  watchful := z.watchful.of_same same.engine same.pollScheduled same.phase

/-- A step that neither begins nor makes a call. -/
theorem of_quiet (z : h.Settling) {h' : Hub Sources} (quiet : Quiet h h')
    (uncalled : ∀ call, h.phase ≠ .calling call) :
    h'.Settling ∧ h'.pollsLeft = h.pollsLeft ∧ h'.remaining ≤ h.remaining - 1 := by
  have polls : h'.pollsLeft = h.pollsLeft := by
    rw [pollsLeft_of_quiet quiet.uncalled, pollsLeft_of_quiet uncalled, quiet.engine,
      quiet.pollScheduled]
  have watchful : h'.Watchful Sources.engine := by
    intro off _
    rw [quiet.engine]
    exact z.watchful (quiet.pollScheduled ▸ off) (uncalled .poll)
  refine ⟨⟨quiet.running, quiet.queue.trans z.queue,
    fun call calling => absurd calling (quiet.uncalled call), watchful⟩, polls, ?_⟩
  have lighter := quiet.lighter
  rw [remaining, remaining, polls]
  omega

/-- A step of a driver that is ready: it begins a poll, or waits. -/
theorem step_of_ready (z : h.Settling) (held : 0 < h.handles) (ready : h.phase = .ready) :
    let h' := h.step Sources.engine
    h'.Settling ∧
    Move.begun Sources.engine h .drive ++ List.replicate h'.pollsLeft ⟨.poll, true⟩
      = List.replicate h.pollsLeft ⟨.poll, true⟩ ∧
    h'.routing = [] ∧ h'.engine = h.engine ∧ h'.remaining ≤ h.remaining - 1 := by
  intro h'
  have watchful : h'.Watchful Sources.engine := z.watchful.step_of_sources
  have stepped : h' = h.take := by simp only [h', Hub.step, ready]
  rcases take_cases h with ⟨call, queue, front, -⟩ | ⟨queue, front, -⟩ | ⟨-, unheld, -⟩
    | ⟨-, -, scheduled, taken⟩ | ⟨blocked, taken⟩
  · rw [z.queue] at front
    cases front
  · rw [z.queue] at front
    cases front
  · exact absurd unheld (Nat.ne_of_gt held)
  · have begins := begun_of_ready Sources.engine ready (by rw [taken])
    rw [taken] at stepped
    have calling : h'.phase = .calling .poll := by rw [stepped]
    have engine : h'.engine = h.engine := by rw [stepped]
    have polls : h'.pollsLeft + 1 = h.pollsLeft := by
      rw [pollsLeft_of_calling calling, pollsLeft_of_quiet (by simp [ready]), scheduled, engine]
      exact rounds_sub _
    refine ⟨⟨?_, ?_, ?_, watchful⟩, ?_, ?_, engine, ?_⟩
    · rw [isRunning, calling]
    · rw [stepped]
      exact z.queue
    · intro call calling'
      exact Phase.calling.inj (calling'.symm.trans calling)
    · rw [begins, z.queue, ← polls]
      rfl
    · rw [routing, calling]
    · rw [remaining, remaining, ← polls, calling, ready, Nat.mul_succ]
      exact Nat.le_of_lt_succ (Nat.lt_succ_self _)
  · have nothing : Move.begun Sources.engine h .drive = [] :=
      begun_of_idle Sources.engine ready (by simp [taken, ready])
    rw [taken] at stepped
    have none_left : h.pollsLeft = 0 := by
      rw [isBlocked, Bool.and_eq_true, Bool.not_eq_true'] at blocked
      rw [pollsLeft_of_quiet (by simp [ready]), blocked.2]
      rfl
    rw [stepped]
    refine ⟨z, by rw [nothing]; rfl, by rw [routing, ready], rfl, ?_⟩
    rw [remaining, none_left, ready]
    exact Nat.le_refl _

/-- A step of a driver that polls. Another poll is scheduled if that leaves anything. -/
theorem step_of_calling (z : h.Settling) (calling : h.phase = .calling .poll) :
    let h' := h.step Sources.engine
    h'.Settling ∧ h'.pollsLeft = h.pollsLeft ∧
    h'.routing ++ h'.engine.queued = h.engine.queued ∧ h'.remaining ≤ h.remaining - 1 := by
  intro h'
  obtain ⟨answer, result, engine, queue, routing, scheduled, past, still, light⟩ :=
    finish_of_sources h .poll
  cases Option.some.inj result
  have stepped : h' = h.finish Sources.engine .poll := by simp only [h', Hub.step, calling]
  rw [← stepped] at engine queue routing scheduled past still light
  have queued : h'.engine.queued = h.engine.queued.drop Sources.batch := by
    rw [engine]
    rfl
  have again : h'.pollScheduled = !(h.engine.queued.drop Sources.batch).isEmpty := scheduled
  have polls : h'.pollsLeft = h.pollsLeft := by
    rw [pollsLeft_of_quiet past, pollsLeft_of_calling calling, again, queued, List.length_drop]
    by_cases some_left : h.engine.queued.length - Sources.batch = 0
    · rw [some_left, List.drop_of_length_le (Nat.le_of_sub_eq_zero some_left)]
      rfl
    · rw [rounds_pos some_left, if_pos]
      simpa using Nat.lt_of_sub_ne_zero some_left
  refine ⟨⟨still, queue.trans z.queue, fun call now => absurd now (past call),
    z.watchful.step_of_sources⟩, polls, ?_, ?_⟩
  · rw [routing, queued]
    exact List.take_append_drop _ _
  · rw [remaining, remaining, polls, calling]
    exact Nat.add_le_add_left (Nat.le_of_lt_succ light) _

/-- One step: what is queued goes to be handed out, what is handed out goes, and a poll that is
    begun is one less to begin. -/
theorem step (z : h.Settling) (held : 0 < h.handles) :
    let h' := h.step Sources.engine
    h'.Settling ∧
    Move.begun Sources.engine h .drive ++ List.replicate h'.pollsLeft ⟨.poll, true⟩
      = List.replicate h.pollsLeft ⟨.poll, true⟩ ∧
    h.passing ++ (h'.routing ++ h'.engine.queued) = h.routing ++ h.engine.queued ∧
    h'.remaining ≤ h.remaining - 1 := by
  intro h'
  have begins_nothing : h.phase ≠ .ready → h'.pollsLeft = h.pollsLeft →
      Move.begun Sources.engine h .drive ++ List.replicate h'.pollsLeft ⟨.poll, true⟩
        = List.replicate h.pollsLeft ⟨.poll, true⟩ := by
    intro busy polls
    rw [begun_of_not_ready Sources.engine busy, polls]
    rfl
  cases hp : h.phase with
  | ready =>
    have idle : h.routing = [] := by rw [routing, hp]
    obtain ⟨settling, begins, idle', engine, less⟩ := z.step_of_ready held hp
    refine ⟨settling, begins, ?_, less⟩
    rw [passing_of_routing_nil idle, idle, idle', engine]
    rfl
  | calling call =>
    obtain rfl := z.polls call hp
    have idle : h.routing = [] := by rw [routing, hp]
    obtain ⟨settling, polls, parts, less⟩ := z.step_of_calling hp
    refine ⟨settling, begins_nothing (by simp [hp]) polls, ?_, less⟩
    rw [passing_of_routing_nil idle, idle]
    exact parts
  | _ =>
    have unready : h.phase ≠ .ready := by simp [hp]
    have uncalled : ∀ call, h.phase ≠ .calling call := by simp [hp]
    have quiet := quiet_step Sources.engine z.running unready uncalled
    obtain ⟨settling, polls, less⟩ := z.of_quiet quiet uncalled
    refine ⟨settling, begins_nothing unready polls, ?_, less⟩
    rw [quiet.engine, ← quiet.routing, List.append_assoc]

/-- A whole run. -/
theorem after (z : h.Settling) (more : List Move) (alone : Undisturbed Sources.engine h more) :
    let last := Hub.after Sources.engine h more
    last.Settling ∧
    begun Sources.engine h more ++ List.replicate last.pollsLeft ⟨.poll, true⟩
      = List.replicate h.pollsLeft ⟨.poll, true⟩ ∧
    routed Sources.engine h more ++ (last.routing ++ last.engine.queued)
      = h.routing ++ h.engine.queued ∧
    last.remaining ≤ h.remaining - drives more := by
  induction more generalizing h with
  | nil => exact ⟨z, rfl, rfl, Nat.le_refl _⟩
  | cons m more ih =>
    obtain ⟨quiet, held⟩ := alone.head
    by_cases inside : m = .drive
    · subst inside
      obtain ⟨settling, begins, hands, less⟩ := z.step held
      obtain ⟨settled, begins', hands', less'⟩ := ih settling alone.tail
      have counted : drives (.drive :: more) = drives more + 1 := List.countP_cons_of_pos rfl
      refine ⟨settled, ?_, ?_, ?_⟩
      · rw [begun, Run.seen_cons, List.append_assoc, ← begins]
        exact congrArg (_ ++ ·) begins'
      · rw [routed, Run.seen_cons, List.append_assoc, ← hands]
        exact congrArg (_ ++ ·) hands'
      · exact Nat.le_trans less' (by omega)
    · have same := alike_move Sources.engine h inside quiet
      obtain ⟨settled, begins, hands, less⟩ := ih (z.of_alike same) alone.tail
      have counted : drives (m :: more) = drives more :=
        List.countP_cons_of_neg (by simp [isDrive_of_outside inside])
      have polls : (h.move Sources.engine m).pollsLeft = h.pollsLeft := by
        rw [pollsLeft, same.phase, same.pollScheduled, same.engine, pollsLeft]
      have routing : (h.move Sources.engine m).routing = h.routing := by
        rw [Hub.routing, same.phase, Hub.routing]
      have left : (h.move Sources.engine m).remaining = h.remaining := by
        rw [remaining, polls, same.phase, remaining]
      refine ⟨settled, ?_, ?_, ?_⟩
      · rw [begun, Run.seen_cons, begun_of_outside Sources.engine h inside, ← polls]
        exact begins
      · rw [routed, Run.seen_cons, routed_of_outside h inside, ← routing, ← same.engine]
        exact hands
      · rw [counted, ← left]
        exact less

end Settling

/-! ## The law -/

theorem watchful_after (s : Sources) (empty : s.queued = []) (mode : Mode) (moves : List Move) :
    (after Sources.engine { engine := s, mode } moves).Watchful Sources.engine := by
  refine Run.after_induction (Hub.move Sources.engine) (motive := fun _ h =>
    h.Watchful Sources.engine) { engine := s, mode } ?_ ?_ moves
  · exact fun _ _ => Sources.hasPending_eq_false_iff.mpr empty
  · intro moves m watchful
    by_cases inside : m = .drive
    · subst inside
      exact watchful.step_of_sources
    · have queued :=
        queued_move Sources.engine (after Sources.engine { engine := s, mode } moves) inside
      exact watchful.of_same queued.engine (scheduling_move Sources.engine _ inside).1 queued.phase

/-- A driver that is ready and has no commands polls no more often than there are responses, or once
    if there are none. -/
theorem remaining_of_ready {h : Hub Sources} (ready : h.phase = .ready) :
    h.remaining ≤ (2 * Sources.batch + 3) * (h.load + 1) := by
  rw [remaining, ready]
  refine Nat.mul_le_mul_left _ ?_
  rw [pollsLeft_of_quiet (by simp [ready]), load]
  split
  · simp only [rounds, Sources.batch]
    omega
  · exact Nat.zero_le _

/-- A driver that has no steps left to take waits, and its engine has nothing queued. -/
theorem Settling.idle {h : Hub Sources} (z : h.Settling) (held : 0 < h.handles)
    (nothing : h.remaining = 0) : h.phase = .ready ∧ h.isBlocked ∧ h.engine.queued = [] := by
  obtain ⟨no_polls, weightless⟩ := Nat.add_eq_zero_iff.mp nothing
  have running := z.running
  have ready : h.phase = .ready := by
    cases hp : h.phase <;> simp [hp, Phase.weight, isRunning] at weightless running ⊢
  have off : h.pollScheduled = false := by
    have none_left := (Nat.mul_eq_zero.mp no_polls).resolve_left (Nat.succ_ne_zero _)
    rw [pollsLeft_of_quiet (by simp [ready])] at none_left
    cases scheduled : h.pollScheduled with
    | false => rfl
    | true =>
      simp only [scheduled, if_true] at none_left
      omega
  have blocked : h.isBlocked := by simp [isBlocked, z.queue, held, off]
  refine ⟨ready, blocked, ?_⟩
  exact Sources.hasPending_eq_false_iff.mp (z.watchful.hasPending_of_blocked ready blocked)

/-- A driver that only polls on its own any more makes the polls that it needs, and then waits. -/
theorem Settling.comes_to_rest {h : Hub Sources} (z : h.Settling) (ready : h.phase = .ready)
    (more : List Move) (alone : Undisturbed Sources.engine h more)
    (enough : h.remaining ≤ drives more) :
    let final := Hub.after Sources.engine h more
    begun Sources.engine h more = List.replicate h.pollsLeft ⟨.poll, true⟩ ∧
    routed Sources.engine h more = h.engine.queued ∧
    final.phase = .ready ∧ final.isBlocked ∧ final.engine.queued = [] := by
  intro final
  obtain ⟨settled, begins, hands, less⟩ := z.after more alone
  have done : final.remaining = 0 := Nat.le_zero.mp (Nat.sub_eq_zero_of_le enough ▸ less)
  obtain ⟨ready', blocked, nothing⟩ := settled.idle (alone.held more List.prefix_rfl) done
  have none_left : final.pollsLeft = 0 := by
    have no_polls := (Nat.add_eq_zero_iff.mp done).1
    exact (Nat.mul_eq_zero.mp no_polls).resolve_left (Nat.succ_ne_zero _)
  refine ⟨?_, ?_, ready', blocked, nothing⟩
  · rw [none_left, List.replicate_zero, List.append_nil] at begins
    exact begins
  · have idle : h.routing = [] ∧ final.routing = [] :=
      ⟨by rw [routing, ready], by rw [routing, ready']⟩
    rw [idle.1, idle.2, nothing, List.append_nil, List.append_nil] at hands
    exact hands

/-- How many polls the driver makes on its own when it has no command left. -/
def ownPolls (h : Hub Sources) : Nat :=
  if h.pollScheduled then max 1 ((h.engine.queued.length + 63) / 64) else 0

/-- A driver comes to rest in the run `first ++ rest` from `h`: in `first` it makes `calls`, one for
    each command in its queue, and in `rest` the polls of `ownPolls`. -/
structure ComesToRest (h : Hub Sources) (first rest : List Move) (calls : List Invocation) :
    Prop where
  ready : (after Sources.engine h first).phase = .ready
  queue : (after Sources.engine h first).queue = []
  commands : calls.map Invocation.command = h.queue
  carried_out : begun Sources.engine h first = calls.map (⟨·, false⟩)
  polled : begun Sources.engine (after Sources.engine h first) rest =
    List.replicate (after Sources.engine h first).ownPolls ⟨.poll, true⟩
  /-- The calls of the whole run begin with the one that the driver was in. -/
  called : called Sources.engine h (first ++ rest) =
    h.inCall ++ calls ++ List.replicate (after Sources.engine h first).ownPolls .poll
  /-- Each response that was queued after the last command is handed out once, in order. -/
  routed : routed Sources.engine (after Sources.engine h first) rest =
    (after Sources.engine h first).engine.queued
  waits : (after Sources.engine h (first ++ rest)).phase = .ready ∧
    (after Sources.engine h (first ++ rest)).isBlocked
  drained : (after Sources.engine h (first ++ rest)).engine.queued = []

/-- Whatever was done to a hub that hosts sources, with nothing queued at first: if its driver runs,
    no `shutdown` is in its queue, and in `more` no command is accepted and a handle is always left,
    then the driver comes to rest after finitely many steps (`ComesToRest`), which depend on the
    state of the hub only. -/
theorem driver_comes_to_rest (s : Sources) (empty : s.queued = []) (mode : Mode)
    (moves : List Move) :
    let start : Hub Sources := { engine := s, mode }
    let h := after Sources.engine start moves
    h.isRunning → .shutdown ∉ h.queue → ∃ enough : Nat, ∀ more : List Move,
      Undisturbed Sources.engine h more → enough ≤ drives more →
      ∃ (first rest : List Move) (calls : List Invocation),
        more = first ++ rest ∧ ComesToRest h first rest calls := by
  intro start h running goes_on
  refine ⟨h.effort + (2 * Sources.batch + 3) * (h.load + 1), fun more alone enough => ?_⟩
  obtain ⟨first, rest, calls, parts, steps, carried, begins, ready, no_commands, load⟩ :=
    commands_carried_out h more running goes_on alone (by omega)
  subst parts
  have settling : (after Sources.engine h first).Settling := {
    running := by rw [isRunning, ready]
    queue := no_commands
    polls := by simp [ready]
    watchful := by
      have watchful := watchful_after s empty mode (moves ++ first)
      rwa [after, Run.after_append] at watchful }
  have enough : (after Sources.engine h first).remaining ≤ drives rest := by
    refine Nat.le_trans (remaining_of_ready ready) ?_
    refine Nat.le_trans (Nat.mul_le_mul_left _ (Nat.succ_le_succ load)) ?_
    exact Nat.le_of_add_le_add_left (Nat.le_trans enough steps)
  obtain ⟨polled, hands, ready', blocked, nothing⟩ :=
    settling.comes_to_rest ready rest alone.append_right enough
  have final : after Sources.engine h (first ++ rest) =
      after Sources.engine (after Sources.engine h first) rest := Run.after_append ..
  have polls : (after Sources.engine h first).pollsLeft = (after Sources.engine h first).ownPolls :=
    pollsLeft_of_quiet (by simp [ready])
  rw [polls] at polled
  refine ⟨first, rest, calls, rfl, ready, no_commands, carried, begins, polled, ?_, hands, ?_, ?_⟩
  · have made : called Sources.engine h (first ++ rest) ++
        (after Sources.engine h (first ++ rest)).inCall =
      h.inCall ++ (begun Sources.engine h (first ++ rest)).map (·.call) :=
      called_append_inCall Sources.engine s mode moves (first ++ rest)
    have whole : begun Sources.engine h (first ++ rest) =
        begun Sources.engine h first ++ begun Sources.engine (after Sources.engine h first) rest :=
      Run.seen_append ..
    rw [final, inCall_eq_nil (by simp [ready']), List.append_nil, whole, begins, polled,
      List.map_append, List.map_map, List.map_replicate, ← List.append_assoc] at made
    have each : calls.map ((fun b : Beginning => b.call) ∘ (⟨·, false⟩)) = calls := List.map_id calls
    rw [each] at made
    exact made
  · rw [final]
    exact ⟨ready', blocked⟩
  · rw [final]
    exact nothing

/-- A request that has just been made, and steps of the driver until it waits. -/
theorem rest_after_one_request :
    let start : Hub Sources := { engine := {} }
    let h := after Sources.engine start [.openMailbox, .request 0 [120], .drive]
    ∃ n polls : Nat,
      called Sources.engine h (List.replicate n .drive) =
        .request ⟨1⟩ [120] :: List.replicate polls .poll ∧
      (after Sources.engine h (List.replicate n .drive)).isBlocked := by
  intro start h
  obtain ⟨enough, law⟩ := driver_comes_to_rest {} rfl .cooperative
    [.openMailbox, .request 0 [120], .drive] (by decide) (by decide)
  obtain ⟨first, rest, calls, parts, rests⟩ :=
    law (List.replicate enough .drive) (.of_drives (by decide) enough)
      (Nat.le_of_eq (drives_replicate enough).symm)
  have one : calls = [.request ⟨1⟩ [120]] := by
    obtain ⟨call, more, rfl, same, none_left⟩ := List.map_eq_cons_iff.mp
      (rests.commands.trans (by decide : h.queue = [.request ⟨1⟩ [120]]))
    rw [List.map_eq_nil_iff.mp none_left]
    cases call <;> cases same
    rfl
  have idle : h.inCall = [] := by decide
  have called := rests.called
  have blocked := rests.waits.2
  rw [← parts] at called blocked
  rw [one] at called
  exact ⟨enough, _, called.trans (congrArg (· ++ _ ++ _) idle), blocked⟩

end Hub

end SessionHub
