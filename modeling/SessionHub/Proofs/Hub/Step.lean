import SessionHub.Hub.Driver
import SessionHub.Hub.Session

set_option autoImplicit false

/-! # What a step of the driver does

Each phase of the driver ends in one way or another, and the lemmas here say once what then is. What
a hub still has to do is a list of commands, the one that is being carried out first (`commands`),
and a list of responses that are being handed out (`routing`). A step takes from their fronts; it
takes a response when it runs the callback that an earlier step has looked up (`passing`). -/

namespace SessionHub

/-- The command that makes the driver make a call. -/
def Invocation.command : Invocation → Command
  | request session bytes => .request session bytes
  | poll => .poll
  | close session => .close session

/-- The response that a delivery hands out, if it is one of the driver's. -/
def Delivery.response (d : Delivery) : Response :=
  { session := d.session, bytes := d.bytes }

namespace Hub

variable {σ : Type}

/-- The commands that were not carried out to the end yet, oldest first. -/
def commands (h : Hub σ) : List Command :=
  match h.phase with
  | .calling call => call.command :: h.queue
  | _ => h.queue

/-- The responses of a call that were not handed out yet, oldest first. -/
def routing (h : Hub σ) : List Response :=
  match h.phase with
  | .routing rest => rest
  | .delivering d rest => d.response :: rest
  | _ => []

/-- The response that is handed out in the next step of the driver: its callback was looked up. -/
def passing (h : Hub σ) : List Response :=
  match h.phase with
  | .delivering d _ => [d.response]
  | _ => []

theorem commands_of_ready {h : Hub σ} (ready : h.phase = .ready) : h.commands = h.queue := by
  rw [commands, ready]

theorem commands_of_calling {h : Hub σ} {call : Invocation} (calling : h.phase = .calling call) :
    h.commands = call.command :: h.queue := by
  rw [commands, calling]

theorem routing_of_routing {h : Hub σ} {rest : List Response} (routing : h.phase = .routing rest) :
    h.routing = rest := by
  rw [Hub.routing, routing]

theorem routing_of_delivering {h : Hub σ} {d : Delivery} {rest : List Response}
    (delivering : h.phase = .delivering d rest) : h.routing = d.response :: rest := by
  rw [routing, delivering]

theorem passing_of_delivering {h : Hub σ} {d : Delivery} {rest : List Response}
    (delivering : h.phase = .delivering d rest) : h.passing = [d.response] := by
  rw [passing, delivering]

theorem passing_of_not_delivering {h : Hub σ} (past : ∀ d rest, h.phase ≠ .delivering d rest) :
    h.passing = [] := by
  unfold passing
  split
  · next d rest delivering => exact absurd delivering (past d rest)
  · rfl

/-- What is handed out next comes first of what is handed out. -/
theorem passing_prefix (h : Hub σ) : h.passing <+: h.routing := by
  unfold passing routing
  cases h.phase with
  | delivering d rest => exact List.prefix_append [_] rest
  | _ => exact List.nil_prefix

theorem passing_of_routing_nil {h : Hub σ} (nothing : h.routing = []) : h.passing = [] :=
  List.prefix_nil.mp (nothing ▸ h.passing_prefix)

/-! ## Commands -/

/-- A command that does not stop the driver makes it call the engine. A poll is then not scheduled
    any more. -/
theorem carryOut_command (h : Hub σ) (call : Invocation) :
    h.carryOut call.command = { h with
      phase := .calling call
      pollScheduled := if call = .poll then false else h.pollScheduled } := by
  cases call <;> simp [carryOut, Invocation.command]

/-- What becomes of a driver that is ready: it makes the next call, or the call that it has
    scheduled for itself, or it stops, or it waits. -/
theorem take_cases (h : Hub σ) :
    (∃ call queue, h.queue = call.command :: queue ∧ h.take = { h with
      queue
      phase := .calling call
      pollScheduled := if call = .poll then false else h.pollScheduled }) ∨
    (∃ queue, h.queue = .shutdown :: queue ∧ h.take = { h with queue }.stop) ∨
    (h.queue = [] ∧ h.handles = 0 ∧ h.take = h.stop) ∨
    (h.queue = [] ∧ h.handles ≠ 0 ∧ h.pollScheduled ∧
      h.take = { h with phase := .calling .poll, pollScheduled := false }) ∨
    (h.isBlocked ∧ h.take = h) := by
  obtain hq | ⟨command, queue, hq⟩ :
      h.queue = [] ∨ ∃ command queue, h.queue = command :: queue := by
    cases h.queue <;> simp
  · by_cases unheld : h.handles = 0
    · refine .inr (.inr (.inl ⟨hq, unheld, ?_⟩))
      simp only [take, hq, unheld, if_true]
    · by_cases scheduled : h.pollScheduled
      · have taken : h.take = h.carryOut .poll := by
          simp only [take, hq, unheld, scheduled, if_true, if_false]
        exact .inr (.inr (.inr (.inl ⟨hq, unheld, scheduled, taken⟩)))
      · refine .inr (.inr (.inr (.inr ⟨?_, ?_⟩)))
        · simp only [isBlocked, hq, List.isEmpty_nil, Bool.true_and, Bool.and_eq_true,
            decide_eq_true_eq]
          exact ⟨Nat.pos_of_ne_zero unheld, by simpa using scheduled⟩
        · simp only [take, hq, unheld, scheduled, if_false, Bool.false_eq_true]
  · have taken : h.take = { h with queue }.carryOut command := by simp only [take, hq]
    have called : ∀ call : Invocation, call.command = command → h.take = { h with
        queue
        phase := .calling call
        pollScheduled := if call = .poll then false else h.pollScheduled } := by
      rintro call rfl
      exact taken.trans (carryOut_command _ call)
    cases command with
    | request id bytes => exact .inl ⟨.request id bytes, queue, hq, called _ rfl⟩
    | poll => exact .inl ⟨.poll, queue, hq, called _ rfl⟩
    | close id => exact .inl ⟨.close id, queue, hq, called _ rfl⟩
    | shutdown => exact .inr (.inl ⟨queue, hq, taken⟩)

/-- A command that is sent comes last, if commands are still taken in. -/
theorem send_eq {h : Hub σ} (running : h.isRunning) (c : Command) :
    h.send c = ({ h with queue := h.queue ++ [c] }, .ok ()) := by
  simp only [send, running, if_true]

theorem send_of_not_running {h : Hub σ} (past : ¬ h.isRunning) (c : Command) :
    h.send c = (h.note (.commandDiscarded c), .error .notRunning) := by
  simp only [send, past, if_false, Bool.false_eq_true]

theorem commands_append (h : Hub σ) (more : List Command) :
    ({ h with queue := h.queue ++ more } : Hub σ).commands = h.commands ++ more := by
  unfold commands
  cases h.phase <;> rfl

/-! ## Calls -/

variable (E : Engine σ)

/-- In either mode the engine is called once. -/
theorem invoke_eq (h : Hub σ) (call : Invocation) : h.invoke E call = E.invoke h.engine call := by
  unfold invoke
  split
  · rfl
  · exact Crew.call_eq E _ h.engine call

/-- A call that gives an answer leaves the engine in its new state and the responses to be handed
    out. -/
theorem finish_of_answer {h : Hub σ} {call : Invocation} {answer : Answer}
    (answered : (E.invoke h.engine call).result = some answer) :
    h.finish E call =
      ({ h with engine := (E.invoke h.engine call).state }.noteAll
        (E.invoke h.engine call).records).accept answer := by
  simp only [finish, invoke_eq, answered]

theorem commands_accept (h : Hub σ) (answer : Answer) : (h.accept answer).commands = h.queue := by
  unfold accept commands
  cases answer.responses <;> rfl

theorem routing_accept (h : Hub σ) (answer : Answer) :
    (h.accept answer).routing = answer.responses := by
  unfold accept routing
  cases answer.responses <;> rfl

/-! ## Responses -/

/-- What a delivery adds to mailbox `k`, if its callback leads there. -/
def delivered (h : Hub σ) (d : Delivery) (k : Nat) : List Bytes :=
  if d.found = some (.mailbox k) ∧ h.mailboxes[k]?.any (·.attended) then [d.bytes] else []

/-- Running a callback changes nothing but the mailbox that it leads to, and that only if it is
    attended. -/
theorem handOver_eq (h : Hub σ) (d : Delivery) :
    ∃ (mailboxes : Array Mailbox) (log : List Record), (h.handOver d).1 = { h with mailboxes, log } ∧
      mailboxes.size = h.mailboxes.size ∧ ∀ k : Nat, mailboxes[k]? = (h.mailboxes[k]?).map fun m =>
        { m with unread := m.unread ++ h.delivered d k } := by
  have same : ∀ log : List Record, (∀ k, h.delivered d k = []) →
      ∃ (mailboxes : Array Mailbox) (log' : List Record),
        { h with log } = { h with mailboxes, log := log' } ∧
        mailboxes.size = h.mailboxes.size ∧ ∀ k : Nat, mailboxes[k]? = (h.mailboxes[k]?).map fun m =>
          { m with unread := m.unread ++ h.delivered d k } := by
    intro log nothing
    refine ⟨h.mailboxes, log, rfl, rfl, fun k => ?_⟩
    rw [nothing k]
    cases h.mailboxes[k]? <;> simp
  unfold handOver Directory.handOver
  cases found : d.found with
  | none =>
    refine same _ fun k => ?_
    simp [delivered, found]
  | some callback =>
    cases callback with
    | failing e =>
      refine same _ fun k => ?_
      simp [delivered, found]
    | mailbox j =>
      by_cases attended : h.mailboxes[j]?.any (·.attended)
      · simp only [call, attended, if_true]
        refine ⟨_, _, rfl, Array.size_modify, fun k => ?_⟩
        rw [Array.getElem?_modify]
        by_cases hjk : j = k
        · subst hjk
          cases h.mailboxes[j]? <;> simp [delivered, found, attended]
        · cases h.mailboxes[k]? <;> simp [delivered, found, hjk]
      · simp only [call, attended]
        refine same _ fun k => ?_
        unfold delivered
        rw [if_neg]
        rintro ⟨hk, attended'⟩
        rw [found] at hk
        cases hk
        exact attended attended'

/-- What completing the `i`-th delivery of others adds to mailbox `k`. -/
def completing (h : Hub σ) (i k : Nat) : List Bytes :=
  h.deliveries[i]?.toList.flatMap (h.delivered · k)

/-- Completing a delivery takes it off the list and runs its callback, if there is such a
    delivery. -/
theorem completeDelivery_eq (h : Hub σ) (i : Nat) :
    ∃ (mailboxes : Array Mailbox) (log : List Record),
      h.completeDelivery i = { h with mailboxes, log, deliveries := h.deliveries.eraseIdx i } ∧
      mailboxes.size = h.mailboxes.size ∧ ∀ k : Nat, mailboxes[k]? = (h.mailboxes[k]?).map fun m =>
        { m with unread := m.unread ++ h.completing i k } := by
  unfold completeDelivery completing
  cases found : h.deliveries[i]? with
  | none =>
    refine ⟨h.mailboxes, h.log, ?_, rfl, fun k => ?_⟩
    · rw [List.eraseIdx_of_length_le (List.getElem?_eq_none_iff.mp found)]
    · cases h.mailboxes[k]? <;> simp
  | some d =>
    obtain ⟨mailboxes, log, handed, size, each⟩ :=
      ({ h with deliveries := h.deliveries.eraseIdx i } : Hub σ).handOver_eq d
    refine ⟨mailboxes, log, handed, size, fun k => (each k).trans ?_⟩
    rw [Option.toList_some, List.flatMap_singleton]
    rfl

/-! ## Steps -/

/-- What a step of the driver takes `h` to. -/
inductive Stepped (h h' : Hub σ) : Prop where
  /-- It gets ready for something, looks up a callback, or does nothing. It may decide to poll. -/
  | quiet (engine : h'.engine = h.engine) (mailboxes : h'.mailboxes = h.mailboxes)
    (running : h'.isRunning = h.isRunning) (before : h.passing = [])
    (routing : h'.routing = h.routing)
    (commands : h'.commands = h.commands ∨ h.commands = [] ∧ h'.commands = [.poll])
  /-- It stops, at `shutdown` or because no handle is left, and forgets the commands. -/
  | stopped (engine : h'.engine = h.engine) (mailboxes : h'.mailboxes = h.mailboxes)
    (running : h'.isRunning = false) (before : h.routing = []) (routing : h'.routing = [])
    (commands : h'.commands = []) (cause : .shutdown ∈ h.commands ∨ h.commands = [])
  /-- A call gives an answer. -/
  | answered (call : Invocation) (answer : Answer) (calling : h.phase = .calling call)
    (result : (E.invoke h.engine call).result = some answer)
    (engine : h'.engine = (E.invoke h.engine call).state) (mailboxes : h'.mailboxes = h.mailboxes)
    (running : h'.isRunning = true) (before : h.routing = []) (routing : h'.routing = answer.responses)
    (commands : h.commands = call.command :: h'.commands)
  /-- A call panics, and the commands are forgotten if that is the end of the driver. -/
  | panicked (call : Invocation) (calling : h.phase = .calling call)
    (result : (E.invoke h.engine call).result = none)
    (engine : h'.engine = (E.invoke h.engine call).state) (mailboxes : h'.mailboxes = h.mailboxes)
    (before : h.routing = []) (routing : h'.routing = [])
    (commands : h.commands = call.command :: h'.commands ∨ h'.isRunning = false ∧ h'.commands = [])
  /-- A response is handed out. -/
  | routed (d : Delivery) (delivering : h.phase = .delivering d h'.routing)
    (engine : h'.engine = h.engine) (size : h'.mailboxes.size = h.mailboxes.size)
    (mailboxes : ∀ k : Nat, h'.mailboxes[k]? = (h.mailboxes[k]?).map fun m =>
      { m with unread := m.unread ++ h.delivered d k })
    (running : h'.isRunning = h.isRunning) (commands : h'.commands = h.commands)

/-- The callback for the first response is looked up. -/
theorem step_of_routing {h : Hub σ} {r : Response} {rest : List Response}
    (routing : h.phase = .routing (r :: rest)) :
    h.step E = { h with phase := .delivering (h.lookUp r.session r.bytes) rest } := by
  simp only [step, routing, route]

theorem step_of_delivering {h : Hub σ} {d : Delivery} {rest : List Response}
    (delivering : h.phase = .delivering d rest) : h.step E = h.pass d rest := by
  simp only [step, delivering]

/-- A response is handed out, whatever comes of it, and the next one is then to be looked up. -/
theorem pass_eq (h : Hub σ) (d : Delivery) (rest : List Response) :
    ∃ (mailboxes : Array Mailbox) (log : List Record), h.pass d rest = { h with
        mailboxes, log, phase := if rest.isEmpty then .ready else .routing rest } ∧
      mailboxes.size = h.mailboxes.size ∧ ∀ k : Nat, mailboxes[k]? = (h.mailboxes[k]?).map fun m =>
        { m with unread := m.unread ++ h.delivered d k } := by
  obtain ⟨mailboxes, log, handed, size, each⟩ := h.handOver_eq d
  exact ⟨mailboxes, log, by simp only [pass, handed], size, each⟩

theorem stepped (h : Hub σ) : Stepped E h (h.step E) := by
  cases hp : h.phase with
  | starting =>
    have routing : h.routing = [] := by rw [Hub.routing, hp]
    have commands : h.commands = h.queue := by rw [Hub.commands, hp]
    have running : h.isRunning = true := by rw [isRunning, hp]
    simp only [step, hp, start]
    cases h.mode <;>
      exact .quiet rfl rfl running.symm (passing_of_routing_nil routing) routing.symm
        (.inl commands.symm)
  | ready =>
    have routing : h.routing = [] := by rw [Hub.routing, hp]
    have passing := passing_of_routing_nil routing
    have commands : h.commands = h.queue := by rw [Hub.commands, hp]
    have running : h.isRunning = true := by rw [isRunning, hp]
    simp only [step, hp]
    rcases take_cases h with ⟨call, queue, hq, taken⟩ | ⟨queue, hq, taken⟩ | ⟨hq, -, taken⟩
      | ⟨hq, -, -, taken⟩ | ⟨-, taken⟩ <;> rw [taken]
    · exact .quiet rfl rfl running.symm passing routing.symm (.inl (commands.trans hq).symm)
    · refine .stopped rfl rfl rfl routing rfl rfl (.inl ?_)
      rw [commands, hq]
      exact List.mem_cons_self
    · exact .stopped rfl rfl rfl routing rfl rfl (.inr (commands.trans hq))
    · refine .quiet rfl rfl running.symm passing routing.symm (.inr ⟨commands.trans hq, ?_⟩)
      show Command.poll :: h.queue = _
      rw [hq]
    · exact .quiet rfl rfl rfl passing rfl (.inl rfl)
  | calling call =>
    have routing : h.routing = [] := by rw [Hub.routing, hp]
    have commands := commands_of_calling hp
    simp only [step, hp]
    cases hr : (E.invoke h.engine call).result with
    | some answer =>
      rw [finish_of_answer E hr]
      refine .answered call answer hp hr rfl rfl ?_ routing (routing_accept _ _) ?_
      · unfold accept isRunning
        cases answer.responses <;> rfl
      · rw [commands_accept]
        exact commands
    | none =>
      -- the driver outlives the panic of a worker, but not one of its own
      simp only [finish, invoke_eq, hr]
      split
      · next answer hm => cases hm
      · cases call <;> exact .panicked _ hp hr rfl rfl routing rfl (.inl commands)
      · exact .panicked _ hp hr rfl rfl routing rfl (.inr ⟨rfl, rfl⟩)
  | routing responses =>
    have routing := routing_of_routing hp
    have passing : h.passing = [] := by rw [Hub.passing, hp]
    have commands : h.commands = h.queue := by rw [Hub.commands, hp]
    have running : h.isRunning = true := by rw [isRunning, hp]
    simp only [step, hp]
    cases responses with
    | nil => exact .quiet rfl rfl running.symm passing routing.symm (.inl commands.symm)
    | cons r rest => exact .quiet rfl rfl running.symm passing routing.symm (.inl commands.symm)
  | delivering d rest =>
    have commands : h.commands = h.queue := by rw [Hub.commands, hp]
    have running : h.isRunning = true := by rw [isRunning, hp]
    simp only [step, hp]
    -- delivered or not, the response is off the list
    obtain ⟨mailboxes, log, passed, size, each⟩ := h.pass_eq d rest
    rw [passed]
    cases rest with
    | nil => exact .routed d hp rfl size each running.symm commands.symm
    | cons r rest => exact .routed d hp rfl size each running.symm commands.symm
  | stopped =>
    have passing : h.passing = [] := by rw [Hub.passing, hp]
    simp only [step, hp]
    exact .quiet rfl rfl rfl passing rfl (.inl rfl)
  | broken =>
    have passing : h.passing = [] := by rw [Hub.passing, hp]
    simp only [step, hp]
    exact .quiet rfl rfl rfl passing rfl (.inl rfl)

/-- The driver takes commands from the front, or forgets them, or decides to poll. -/
theorem commands_step (h : Hub σ) :
    (h.step E).commands <:+ h.commands ∨ ∀ c ∈ (h.step E).commands, c = .poll := by
  cases h.stepped E with
  | quiet engine mailboxes running before routing commands =>
    rcases commands with same | ⟨-, poll⟩
    · exact .inl (same ▸ List.suffix_rfl)
    · exact .inr (poll ▸ fun c hc => List.mem_singleton.mp hc)
  | stopped engine mailboxes running before routing commands =>
    exact .inl (commands ▸ List.nil_suffix)
  | answered call answer calling result engine mailboxes running before routing commands =>
    exact .inl (commands ▸ List.suffix_cons ..)
  | panicked call calling result engine mailboxes before routing commands =>
    rcases commands with rest | ⟨-, nothing⟩
    · exact .inl (rest ▸ List.suffix_cons ..)
    · exact .inl (nothing ▸ List.nil_suffix)
  | routed d delivering engine size mailboxes running commands =>
    exact .inl (commands ▸ List.suffix_rfl)

/-- Commands that wait after a step did so before it, or are polls. -/
theorem mem_commands_of_step {h : Hub σ} {c : Command} (waits : c ∈ (h.step E).commands) :
    c = .poll ∨ c ∈ h.commands :=
  (h.commands_step E).symm.imp (fun polls => polls c waits) fun rest => rest.subset waits

/-- The driver makes no mailboxes. -/
theorem size_step (h : Hub σ) : (h.step E).mailboxes.size = h.mailboxes.size := by
  cases h.stepped E with
  | quiet engine mailboxes => rw [mailboxes]
  | stopped engine mailboxes => rw [mailboxes]
  | answered call answer calling result engine mailboxes => rw [mailboxes]
  | panicked call calling result engine mailboxes => rw [mailboxes]
  | routed d delivering engine size => exact size

/-- A delivery is begun only when a response is to be handed out. -/
theorem routing_of_step_delivering {h : Hub σ} {d : Delivery} {rest : List Response}
    (delivering : (h.step E).phase = .delivering d rest) :
    ∃ r rest, h.phase = .routing (r :: rest) := by
  cases hp : h.phase with
  | starting => simp [step, hp, start, note] at delivering
  | ready =>
    simp only [step, hp] at delivering
    rcases take_cases h with ⟨call, queue, -, taken⟩ | ⟨queue, -, taken⟩ | ⟨-, -, taken⟩
      | ⟨-, -, -, taken⟩ | ⟨-, taken⟩ <;> rw [taken] at delivering
    · cases delivering
    · cases delivering
    · cases delivering
    · cases delivering
    · rw [hp] at delivering
      cases delivering
  | calling call =>
    simp only [step, hp] at delivering
    cases hr : (E.invoke h.engine call).result with
    | some answer =>
      rw [finish_of_answer E hr, accept] at delivering
      dsimp only at delivering
      split at delivering <;> cases delivering
    | none =>
      simp only [finish, invoke_eq, hr] at delivering
      split at delivering
      · next answer hm => cases hm
      · cases call <;> cases delivering
      · cases delivering
  | routing responses =>
    cases responses with
    | nil => simp [step, hp, route] at delivering
    | cons r rest => exact ⟨r, rest, rfl⟩
  | delivering d rest =>
    obtain ⟨mailboxes, log, passed, -, -⟩ := h.pass_eq d rest
    rw [step_of_delivering E hp, passed] at delivering
    cases rest <;> cases delivering
  | stopped => simp [step, hp] at delivering
  | broken => simp [step, hp] at delivering

/-- Whether `h'` differs from `h` at most in what a step of the driver may change. -/
structure SameFrame (h h' : Hub σ) : Prop where
  sessions : h'.sessions = h.sessions
  directory : h'.directory = h.directory
  handles : h'.handles = h.handles
  mode : h'.mode = h.mode
  deliveries : h'.deliveries = h.deliveries

/-- A step of the driver leaves `sessions`, `directory`, `handles`, `mode` and `deliveries` as they
    are. -/
theorem step_frame (h : Hub σ) : h.SameFrame (h.step E) := by
  cases hp : h.phase with
  | starting =>
    simp only [step, hp, start]
    cases h.mode <;> exact ⟨rfl, rfl, rfl, rfl, rfl⟩
  | ready =>
    simp only [step, hp]
    rcases take_cases h with ⟨call, queue, hq, taken⟩ | ⟨queue, hq, taken⟩ | ⟨hq, -, taken⟩
      | ⟨hq, -, -, taken⟩ | ⟨-, taken⟩ <;> rw [taken] <;> exact ⟨rfl, rfl, rfl, rfl, rfl⟩
  | calling call =>
    simp only [step, hp]
    cases hr : (E.invoke h.engine call).result with
    | some answer =>
      rw [finish_of_answer E hr]
      exact ⟨rfl, rfl, rfl, rfl, rfl⟩
    | none =>
      simp only [finish, invoke_eq, hr]
      split
      · next answer hm => cases hm
      · cases call <;> exact ⟨rfl, rfl, rfl, rfl, rfl⟩
      · exact ⟨rfl, rfl, rfl, rfl, rfl⟩
  | routing responses =>
    simp only [step, hp]
    cases responses <;> exact ⟨rfl, rfl, rfl, rfl, rfl⟩
  | delivering d rest =>
    obtain ⟨mailboxes, log, passed, -, -⟩ := h.pass_eq d rest
    simp only [step, hp, passed]
    exact ⟨rfl, rfl, rfl, rfl, rfl⟩
  | stopped =>
    simp only [step, hp]
    exact ⟨rfl, rfl, rfl, rfl, rfl⟩
  | broken =>
    simp only [step, hp]
    exact ⟨rfl, rfl, rfl, rfl, rfl⟩

/-! ## Whether the driver runs -/

/-- A driver that has stopped does not start again. -/
theorem running_of_step {E : Engine σ} {h : Hub σ} (running : (h.step E).isRunning) :
    h.isRunning := by
  unfold isRunning
  cases hp : h.phase with
  | stopped => simp [step, hp, isRunning] at running
  | broken => simp [step, hp, isRunning] at running
  | _ => rfl

/-- A driver that runs and has nothing to do waits for a command. -/
theorem ready_of_idle {h : Hub σ} (running : h.isRunning) (idle : h.isIdle) :
    h.phase = .ready ∧ h.isBlocked := by
  unfold isRunning at running
  unfold isIdle at idle
  cases hp : h.phase <;> simp_all

theorem sessions_send (h : Hub σ) (c : Command) : (h.send c).1.sessions = h.sessions := by
  unfold send
  split <;> rfl

theorem isRunning_send (h : Hub σ) (c : Command) : (h.send c).1.isRunning = h.isRunning := by
  unfold send
  split <;> rfl

theorem isRunning_sendFor (h : Hub σ) (k : Nat) (command : SessionId → Command) :
    (h.sendFor k command).1.isRunning = h.isRunning := by
  unfold sendFor
  split
  · rfl
  · split
    · rfl
    · exact h.isRunning_send _

theorem isRunning_sendPayload (h : Hub σ) (k : Nat) (p : Payload) :
    (h.sendPayload k p).1.isRunning = h.isRunning := by
  have requested := h.isRunning_sendFor k (.request · p.bytes)
  unfold sendPayload request poll
  split
  · next h' e same =>
    rw [same] at requested
    exact requested
  · next h' same =>
    rw [same] at requested
    have polled := h'.isRunning_sendFor k fun _ => .poll
    split
    · next h'' e same' =>
      rw [same'] at polled
      exact polled.trans requested
    · next h'' same' =>
      rw [same'] at polled
      exact polled.trans requested

theorem isRunning_close (h : Hub σ) (k : Nat) : (h.close k).isRunning = h.isRunning := by
  unfold close
  split
  · rfl
  · split
    · rfl
    · dsimp only
      split
      · exact isRunning_send _ _
      · rfl

end Hub

end SessionHub
