import SessionHub.Engine.Scripted
import SessionHub.Proofs.Hub.Draining

set_option autoImplicit false

/-! # What becomes of responses

The driver hands out all that a call gave, and nothing that goes wrong with one response concerns
the others (`failures_are_absorbed`). What becomes of a response is settled by the callback that is
looked up for it and by whether a mailbox is attended (`receptionBy`), and handing out changes
neither the directory nor which mailboxes are attended; so what becomes of a whole batch can be told
from the state in which it begins (`foreseen`, `Dispatched`). A call that panics gives nothing to
hand out. -/

namespace SessionHub

/-- What becomes of something that is handed to a session. -/
inductive Reception where
  /-- It comes into a mailbox. -/
  | delivered (k : Nat)
  /-- The number is not listed. -/
  | unknown
  | failed (error : DeliveryError)
  deriving DecidableEq, Repr

/-- What is logged of a response. -/
def Response.report (r : Response) : Reception → Option Record
  | .delivered _ => none
  | .unknown => some (.unknownSession r.session r.bytes.length)
  | .failed e => some (.deliveryFailed r.session e.message)

/-- How serious it is. -/
def Reception.level? : Reception → Option Level
  | .delivered _ => none
  | .unknown => some .warn
  | .failed _ => some .error

/-- A response that is not delivered is logged, as seriously as that is. -/
theorem Response.level_report (r : Response) (f : Reception) :
    (r.report f).map (·.level) = f.level? := by
  cases f <;> rfl

/-- The responses that some calls gave, made one after the other. A call that panicked gave none. -/
def Engine.given {σ : Type} (E : Engine σ) (s : σ) (calls : List Invocation) : List Response :=
  (E.transcript s calls).flatMap fun p => (p.2.result.map (·.responses)).getD []

theorem Engine.given_append {σ : Type} (E : Engine σ) (s : σ) (calls more : List Invocation) :
    E.given s (calls ++ more) = E.given s calls ++ E.given (E.after s calls) more := by
  rw [given, E.transcript_append, List.flatMap_append, given, given]

theorem Engine.given_singleton {σ : Type} (E : Engine σ) (s : σ) (call : Invocation) :
    E.given s [call] = ((E.invoke s call).result.map (·.responses)).getD [] :=
  List.flatMap_singleton ..

namespace Hub

variable {σ : Type} (E : Engine σ)

/-- What becomes of something that is handed now to the callback that was looked up for it. -/
def receptionBy (h : Hub σ) : Option Callback → Reception
  | none => .unknown
  | some (.failing e) => .failed e
  | some (.mailbox k) =>
    if h.mailboxes[k]?.any (·.attended) then .delivered k else .failed .closed

/-- What becomes of something that is handed to a session now, if its callback is looked up now. -/
def reception (h : Hub σ) (id : SessionId) : Reception :=
  h.receptionBy (h.directory.callback? id)

/-- Some responses, each with what becomes of it if it is looked up now. -/
def foreseen (h : Hub σ) (rs : List Response) : List (Response × Reception) :=
  rs.map fun r => (r, h.reception r.session)

/-- What is logged if some responses are handed out, in order. -/
def reports (ps : List (Response × Reception)) : List Record :=
  ps.filterMap fun p => p.1.report p.2

/-- What comes into mailbox `k` if some responses are handed out, in order. -/
def received (ps : List (Response × Reception)) (k : Nat) : List Bytes :=
  (ps.filter fun p => p.2 = .delivered k).map (·.1.bytes)

/-- Whether `h'` is `h` after some responses were handed out, each with that outcome. -/
structure Dispatched (ps : List (Response × Reception)) (h h' : Hub σ) : Prop where
  frame : h' = { h with phase := h'.phase, mailboxes := h'.mailboxes, log := h'.log }
  mailboxes : ∀ k : Nat, h'.mailboxes[k]? = (h.mailboxes[k]?).map fun m =>
    { m with unread := m.unread ++ received ps k }
  log : h'.log = (reports ps).reverse ++ h.log

/-- Whether `h'` is `h` after a call that panicked without being the end of the driver. -/
structure Outlived (call : Invocation) (h h' : Hub σ) : Prop where
  ready : h'.phase = .ready
  queue : h'.queue = h.queue
  directory : h'.directory = h.directory
  sessions : h'.sessions = h.sessions
  mailboxes : h'.mailboxes = h.mailboxes
  log : h'.log = failure call :: (E.invoke h.engine call).records.reverse ++ h.log

/-! ## One response -/

theorem receptionBy_eq_delivered {h : Hub σ} {found : Option Callback} {k : Nat} :
    h.receptionBy found = .delivered k ↔
      found = some (.mailbox k) ∧ h.mailboxes[k]?.any (·.attended) := by
  cases found with
  | none => simp [receptionBy]
  | some callback =>
    cases callback with
    | failing e => simp [receptionBy]
    | mailbox j =>
      rw [receptionBy, Option.some.injEq, Callback.mailbox.injEq]
      split
      · next there =>
        rw [Reception.delivered.injEq]
        exact ⟨fun same => ⟨same, same ▸ there⟩, And.left⟩
      · next unlisted =>
        refine ⟨nofun, fun leads => absurd leads.2 ?_⟩
        rw [← leads.1]
        exact unlisted

theorem received_singleton (h : Hub σ) (d : Delivery) (k : Nat) :
    received [(d.response, h.receptionBy d.found)] k = h.delivered d k := by
  simp only [received, delivered, List.filter_cons, List.filter_nil, decide_eq_true_eq,
    receptionBy_eq_delivered]
  split <;> rfl

/-- What is logged of a delivery is what becomes of it. -/
theorem log_handOver (h : Hub σ) (d : Delivery) :
    (h.handOver d).1.log = (reports [(d.response, h.receptionBy d.found)]).reverse ++ h.log := by
  unfold handOver Directory.handOver
  cases d.found with
  | none => rfl
  | some callback =>
    cases callback with
    | failing e => rfl
    | mailbox k =>
      by_cases there : h.mailboxes[k]?.any (·.attended)
      · simp only [call, receptionBy, there, if_true]
        rfl
      · simp only [call, receptionBy, there, if_false, Bool.false_eq_true]
        rfl

/-- The step in which a response is handed out. -/
theorem dispatched_step {h : Hub σ} {d : Delivery} {rest : List Response}
    (delivering : h.phase = .delivering d rest) :
    (h.step E).phase = (if rest.isEmpty then .ready else .routing rest) ∧
    Dispatched [(d.response, h.receptionBy d.found)] h (h.step E) := by
  obtain ⟨mailboxes, log, handed, -, each⟩ := h.handOver_eq d
  have logged := h.log_handOver d
  have step : h.step E = { h with
      mailboxes, log, phase := if rest.isEmpty then .ready else .routing rest } := by
    rw [step_of_delivering E delivering]
    simp only [pass, handed]
  rw [handed] at logged
  rw [step]
  refine ⟨rfl, rfl, fun k => ?_, logged⟩
  rw [received_singleton]
  exact each k

/-! ## Many responses -/

namespace Dispatched

variable {ps more : List (Response × Reception)} {h h' h'' : Hub σ}

theorem directory (d : Dispatched ps h h') : h'.directory = h.directory := by
  rw [d.frame]

/-- Handing out responses changes nothing for those that come after them. -/
theorem foreseen (d : Dispatched ps h h') : h'.foreseen = h.foreseen := by
  have attended (k : Nat) :
      h'.mailboxes[k]?.any (·.attended) = h.mailboxes[k]?.any (·.attended) := by
    rw [d.mailboxes k]
    cases h.mailboxes[k]? <;> rfl
  have receptionBy : h'.receptionBy = h.receptionBy := by
    funext found
    unfold Hub.receptionBy
    simp only [attended]
  funext rs
  simp only [Hub.foreseen, reception, receptionBy, d.directory]

/-- Nothing was handed out yet when a callback is looked up. -/
theorem nothing (h : Hub σ) (phase : Phase) : Dispatched [] h { h with phase } where
  frame := rfl
  mailboxes k := by
    show h.mailboxes[k]? = _
    cases h.mailboxes[k]? <;> simp [received]
  log := rfl

theorem append (d : Dispatched ps h h') (d' : Dispatched more h' h'') :
    Dispatched (ps ++ more) h h'' where
  frame := by rw [d'.frame, d.frame]
  mailboxes k := by
    have parts : received (ps ++ more) k = received ps k ++ received more k := by
      rw [received, List.filter_append, List.map_append, received, received]
    rw [d'.mailboxes k, d.mailboxes k, parts]
    cases h.mailboxes[k]? <;> simp
  log := by
    have parts : reports (ps ++ more) = reports ps ++ reports more := List.filterMap_append ..
    rw [d'.log, d.log, parts, List.reverse_append, List.append_assoc]

end Dispatched

theorem foreseen_cons (h : Hub σ) (r : Response) (rs : List Response) :
    h.foreseen (r :: rs) = (r, h.reception r.session) :: h.foreseen rs := rfl

theorem routing_of_rest {h : Hub σ} {rest : List Response}
    (phase : h.phase = if rest.isEmpty then .ready else .routing rest) : h.routing = rest := by
  rw [Hub.routing, phase]
  cases rest <;> rfl

/-- A driver that is left alone looks up and hands out the first of its responses. -/
theorem dispatched_two_steps {h : Hub σ} {r : Response} {rest : List Response}
    (routing : h.phase = .routing (r :: rest)) :
    ((h.step E).step E).phase = (if rest.isEmpty then .ready else .routing rest) ∧
    Dispatched [(r, h.reception r.session)] h ((h.step E).step E) := by
  have found := step_of_routing E routing
  have delivering : (h.step E).phase = .delivering (h.lookUp r.session r.bytes) rest := by
    rw [found]
  obtain ⟨phase, handed⟩ := dispatched_step E delivering
  refine ⟨phase, ?_⟩
  have looked_up : Dispatched [] h (h.step E) := by
    rw [found]
    exact .nothing h _
  have outcome : (h.step E).receptionBy (h.lookUp r.session r.bytes).found =
      h.reception r.session := by
    rw [found]
    rfl
  rw [outcome] at handed
  exact looked_up.append handed

/-- A driver that is left alone hands out responses, with the outcome that was to be foreseen, and
    then those that are left. -/
theorem dispatched_steps {h : Hub σ} (rs more : List Response)
    (routing : h.phase = .routing (rs ++ more)) :
    let h' := after E h (List.replicate (2 * rs.length) .drive)
    (rs ≠ [] → h'.phase = if more.isEmpty then .ready else .routing more) ∧
    h'.routing = more ∧ Dispatched (h.foreseen rs) h h' := by
  induction rs generalizing h with
  | nil => exact ⟨fun some => absurd rfl some, routing_of_routing routing, .nothing h h.phase⟩
  | cons r rs ih =>
    obtain ⟨phase, first⟩ := dispatched_two_steps E routing
    rw [foreseen_cons, ← first.foreseen]
    show (_ → (after E ((h.step E).step E) (List.replicate (2 * rs.length) .drive)).phase = _) ∧ _
    cases rs with
    | nil => exact ⟨fun _ => phase, routing_of_rest phase, first.append (.nothing _ _)⟩
    | cons r' rs =>
      obtain ⟨phase', left, rest⟩ := ih phase
      exact ⟨fun _ => phase' (List.cons_ne_nil _ _), left, first.append rest⟩

/-! ## Calls -/

/-- What the driver hands out in a step comes off the front of what is to be handed out, and what
    the call gives that it makes goes behind it. -/
theorem routing_step (h : Hub σ) :
    (h.step E).engine = E.after h.engine h.inCall ∧
    h.routing ++ E.given h.engine h.inCall = h.passing ++ (h.step E).routing := by
  by_cases idle : ∀ call, h.phase ≠ .calling call
  · rw [inCall_eq_nil idle]
    cases h.stepped E with
    | quiet engine mailboxes running before routing =>
      rw [engine, before, routing]
      exact ⟨rfl, List.append_nil _⟩
    | stopped engine mailboxes running before routing =>
      rw [engine, passing_of_routing_nil before, before, routing]
      exact ⟨rfl, rfl⟩
    | answered call answer calling => exact absurd calling (idle call)
    | panicked call calling => exact absurd calling (idle call)
    | routed d delivering engine =>
      rw [engine, passing_of_delivering delivering, routing_of_delivering delivering]
      exact ⟨rfl, List.append_nil _⟩
  · obtain ⟨call, calling⟩ := Classical.not_forall_not.mp idle
    have nothing : h.routing = [] := by rw [Hub.routing, calling]
    have step : h.step E = h.finish E call := by simp only [Hub.step, calling]
    rw [inCall_of_calling calling, passing_of_routing_nil nothing, nothing, step, E.given_singleton]
    refine ⟨(finish_frame E h call).1, ?_⟩
    cases result : (E.invoke h.engine call).result with
    | some answer =>
      rw [finish_of_answer E result, routing_accept]
      rfl
    | none =>
      simp only [finish, invoke_eq, result]
      split
      · next same => cases same
      · cases call <;> rfl
      · rfl

/-- What was to be handed out and what the calls of a run give was handed out in it, in this order,
    or is still to be handed out. -/
theorem routed_append_routing (h : Hub σ) (moves : List Move) :
    h.routing ++ E.given h.engine (called E h moves) =
      routed E h moves ++ (after E h moves).routing := by
  unfold routed called after
  induction moves generalizing h with
  | nil => exact List.append_nil _
  | cons m moves ih =>
    rw [Run.seen_cons, Run.seen_cons, Run.after_cons, List.append_assoc, ← ih, E.given_append,
      ← List.append_assoc, ← List.append_assoc]
    by_cases outside : m = .drive
    · subst outside
      obtain ⟨engine, parts⟩ := h.routing_step E
      show (h.routing ++ E.given h.engine h.inCall) ++ E.given (E.after h.engine h.inCall) _ =
        (h.passing ++ (h.step E).routing) ++ E.given (h.step E).engine _
      rw [parts, engine]
    · have queued := queued_move E h outside
      have same : (h.move E m).routing = h.routing := by
        rw [Hub.routing, queued.phase, Hub.routing]
      rw [called_of_outside h outside, routed_of_outside h outside, same, queued.engine]
      exact congrArg (· ++ _) (List.append_nil _)

/-- A driver with a crew outlives a panic. -/
theorem outlived_step {h : Hub σ} {call : Invocation} {workers : WorkerCount}
    (calling : h.phase = .calling call) (pool : h.mode = .pool workers)
    (panicked : (E.invoke h.engine call).result = none) : Outlived E call h (h.step E) := by
  have step : h.step E = h.finish E call := by simp only [Hub.step, calling]
  rw [step]
  simp only [finish, invoke_eq, panicked, pool, noteAll]
  cases call <;> exact ⟨rfl, rfl, rfl, rfl, rfl, rfl⟩

/-- The driver then goes on with the next command. -/
theorem Outlived.step_eq {E : Engine σ} {call : Invocation} {h h' : Hub σ}
    (o : Outlived E call h h') {command : Command} {queue : List Command}
    (front : h.queue = command :: queue) :
    h'.step E = { h' with queue }.carryOut command := by
  have step : h'.step E = h'.take := by simp only [Hub.step, o.ready]
  simp only [step, take, o.queue, front]

/-! ## The law -/

/-- From every state of a driver over any engine, each response that a call gives is handed out
    once, in order, and a call that panics gives none. When responses are handed out one after the
    other, what becomes of each is what `foreseen` says in the state before: it comes into an
    attended mailbox, or is logged once with its own reason (`Dispatched`), and the directory does
    not change; the same holds of a delivery that is in flight already. After a call that panicked
    the driver in `.pool` mode hands out nothing and takes the next command. -/
theorem failures_are_absorbed (h : Hub σ) (moves : List Move) :
    let now := after E h moves
    h.routing ++ E.given h.engine (called E h moves) = routed E h moves ++ now.routing ∧
    (∀ rs more, now.phase = .routing (rs ++ more) →
      let later := after E now (List.replicate (2 * rs.length) .drive)
      (rs ≠ [] → later.phase = if more.isEmpty then .ready else .routing more) ∧
      later.routing = more ∧ later.directory = now.directory ∧
      Dispatched (now.foreseen rs) now later) ∧
    (∀ d rest, now.phase = .delivering d rest →
      let next := now.step E
      (next.phase = if rest.isEmpty then .ready else .routing rest) ∧
      next.routing = rest ∧ next.directory = now.directory ∧
      Dispatched [(d.response, now.receptionBy d.found)] now next) ∧
    (∀ (r : Response) (f : Reception), (r.report f).map (·.level) = f.level?) ∧
    (∀ call workers, now.phase = .calling call → now.mode = .pool workers →
      (E.invoke now.engine call).result = none →
      let next := now.step E
      Outlived E call now next ∧ next.routing = [] ∧
      ∀ command queue, now.queue = command :: queue →
        next.step E = { next with queue }.carryOut command) := by
  intro now
  refine ⟨routed_append_routing E h moves, fun rs more routing => ?_, fun d rest delivering => ?_,
    Response.level_report, ?_⟩
  · obtain ⟨phase, left, dispatched⟩ := dispatched_steps E rs more routing
    exact ⟨phase, left, dispatched.directory, dispatched⟩
  · obtain ⟨phase, dispatched⟩ := dispatched_step E delivering
    exact ⟨phase, routing_of_rest phase, dispatched.directory, dispatched⟩
  · intro call workers calling pool panicked next
    have outlived := outlived_step E calling pool panicked
    refine ⟨outlived, ?_, fun command queue front => ?_⟩
    · rw [Hub.routing, outlived.ready]
    · exact outlived.step_eq front

/-- A poll gives three responses: one for a number that is not listed, one for a session that cannot
    be reached, and one for a session that can. Closing a session panics. -/
theorem failures_absorbed_by_crew :
    let start : Hub Scripted := {
      engine := {
        script := .trickle 3
        queued := [⟨⟨9⟩, [97]⟩, ⟨⟨2⟩, [98]⟩, ⟨⟨1⟩, [99]⟩]
        closeArmed := true }
      mode := .onePool
      phase := .ready
      directory := { entries := [(⟨1⟩, .mailbox 0), (⟨2⟩, .failing .closed)], enrolments := 2 }
      mailboxes := #[{}] }
    let now := after Scripted.engine start [.command .poll, .drive, .drive]
    let later := after Scripted.engine now (List.replicate 6 .drive)
    let next := (after Scripted.engine start
      [.command (.close ⟨9⟩), .command .poll, .drive]).step Scripted.engine
    later.phase = .ready ∧ later.mailboxes[0]?.map (·.unread) = some [[99]] ∧
    later.log =
      .deliveryFailed ⟨2⟩ "delivery channel closed" :: .unknownSession ⟨9⟩ 1 :: now.log ∧
    next.phase = .ready ∧ (next.step Scripted.engine).phase = .calling .poll := by
  intro start now later next
  obtain ⟨-, batch, -⟩ :=
    failures_are_absorbed Scripted.engine start [.command .poll, .drive, .drive]
  obtain ⟨phase, -, -, dispatched⟩ := batch
    [⟨⟨9⟩, [97]⟩, ⟨⟨2⟩, [98]⟩, ⟨⟨1⟩, [99]⟩] [] (by decide +kernel)
  obtain ⟨-, -, -, -, goes_on⟩ := failures_are_absorbed Scripted.engine start
    [.command (.close ⟨9⟩), .command .poll, .drive]
  obtain ⟨outlived, -, resumes⟩ := goes_on (.close ⟨9⟩) ⟨1, by decide⟩ (by decide +kernel)
    (by decide +kernel) (by decide +kernel)
  refine ⟨phase (by decide), ?_, dispatched.log.trans (by decide +kernel), outlived.ready, ?_⟩
  · show Option.map Mailbox.unread later.mailboxes[0]? = some [[99]]
    exact (congrArg (Option.map Mailbox.unread) (dispatched.mailboxes 0)).trans (by decide +kernel)
  · exact (congrArg Hub.phase (resumes .poll [] (by decide +kernel))).trans rfl

end Hub

end SessionHub
