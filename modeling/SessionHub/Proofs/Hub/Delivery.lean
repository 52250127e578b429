import SessionHub.Engine.Sources
import SessionHub.Proofs.Hub.Mailboxes
import SessionHub.Proofs.Hub.Polls
import SessionHub.Proofs.Hub.Register

set_option autoImplicit false

/-! # What sessions get

A session of a hub that hosts sources gets the answers to its own requests, in order and each once
(`handed_prefix_answers`). What has been asked and not answered yet is `outstanding`: responses that
are being handed out, answers that the engine has queued, and requests that the driver has not come
to. What was handed to a session whose mailbox is attended and what is outstanding for it are
together the answers to all of its requests (`Served`).

A session may be closed while the driver holds the callback that it has looked up for it. It then
gets one more answer, the next in order; so the invariant is about what was handed over together
with what the driver is about to hand over (`handing`). -/

namespace SessionHub

/-! ## What concerns one session -/

/-- What some responses say to a session. -/
def Response.bytesFor (id : SessionId) (rs : List Response) : List Bytes :=
  (rs.filter (·.session = id)).map (·.bytes)

@[simp] theorem Response.bytesFor_nil (id : SessionId) : bytesFor id [] = [] := rfl

@[simp] theorem Response.bytesFor_append (id : SessionId) (rs more : List Response) :
    bytesFor id (rs ++ more) = bytesFor id rs ++ bytesFor id more := by
  rw [bytesFor, List.filter_append, List.map_append]
  rfl

theorem Response.bytesFor_cons (id : SessionId) (r : Response) (rs : List Response) :
    bytesFor id (r :: rs) = (if r.session = id then [r.bytes] else []) ++ bytesFor id rs := by
  unfold bytesFor
  rw [List.filter_cons]
  split <;> simp_all

theorem Response.bytesFor_eq_nil {id : SessionId} {rs : List Response}
    (others : ∀ r ∈ rs, r.session ≠ id) : bytesFor id rs = [] := by
  rw [bytesFor, List.filter_eq_nil_iff.mpr fun r hr => by simpa using others r hr]
  rfl

/-- The request that a command makes in the name of a session. -/
def Command.requestOf? (id : SessionId) : Command → Option Bytes
  | .request session bytes => if session = id then some bytes else none
  | _ => none

/-- The requests that commands make in the name of a session. -/
def Command.requestsOf (id : SessionId) (cs : List Command) : List Bytes :=
  cs.filterMap (requestOf? id)

theorem Command.requestsOf_cons (id : SessionId) (c : Command) (cs : List Command) :
    requestsOf id (c :: cs) = (c.requestOf? id).toList ++ requestsOf id cs := by
  unfold requestsOf
  rw [List.filterMap_cons]
  cases c.requestOf? id <;> rfl

theorem Command.requestsOf_singleton (id : SessionId) (c : Command) :
    requestsOf id [c] = (c.requestOf? id).toList := by
  rw [requestsOf_cons]
  exact List.append_nil _

@[simp] theorem Command.requestsOf_append (id : SessionId) (cs more : List Command) :
    requestsOf id (cs ++ more) = requestsOf id cs ++ requestsOf id more :=
  List.filterMap_append ..

theorem Command.requestsOf_eq_nil {id : SessionId} {cs : List Command}
    (others : ∀ id' bytes, .request id' bytes ∈ cs → id' ≠ id) : requestsOf id cs = [] := by
  refine List.filterMap_eq_nil_iff.mpr fun c hc => ?_
  cases c with
  | request id' bytes => exact if_neg (others id' bytes hc)
  | poll => rfl
  | close id' => rfl
  | shutdown => rfl

theorem Sources.answer_congr {s t : Sources} (same : s.hosted = t.hosted) : s.answer = t.answer := by
  funext request
  rw [answer, lookup?, same]
  rfl

namespace Hub

/-! ## What is on its way to a number -/

/-- What is owed to the session with the number `id`: what is being handed out to it, what the
    engine has queued for it, and the answers to its requests that the driver has not come to. -/
def owed (h : Hub Sources) (id : SessionId) : List Bytes :=
  Response.bytesFor id h.routing ++ Response.bytesFor id h.engine.queued ++
    (Command.requestsOf id h.commands).map h.engine.answer

/-- A call that closes another number takes an answer from the requests to the queue, or from the
    queue to what is handed out, or leaves everything in its place. -/
theorem owed_of_call {s : Sources} {call : Invocation} {answer : Answer} {id : SessionId}
    (other : call ≠ .close id) (answered : (Sources.engine.invoke s call).result = some answer) :
    (Sources.engine.invoke s call).state.answer = s.answer ∧
    Response.bytesFor id answer.responses ++
        Response.bytesFor id (Sources.engine.invoke s call).state.queued =
      Response.bytesFor id s.queued ++ (call.command.requestOf? id).toList.map s.answer := by
  cases call with
  | request id' bytes =>
    cases Option.some.inj answered
    refine ⟨Sources.answer_congr rfl, ?_⟩
    simp only [Engine.invoke, Sources.engine, Sources.request, Response.bytesFor_nil,
      Response.bytesFor_append, Response.bytesFor_cons, Invocation.command, Command.requestOf?,
      List.nil_append, List.append_nil]
    split <;> rfl
  | poll =>
    cases Option.some.inj answered
    refine ⟨Sources.answer_congr rfl, ?_⟩
    simp only [Engine.invoke, Sources.engine, Sources.poll, Invocation.command, Command.requestOf?,
      Option.toList_none, List.map_nil, List.append_nil]
    rw [← Response.bytesFor_append, List.take_append_drop]
  | close id' =>
    cases Option.some.inj answered
    refine ⟨Sources.answer_congr rfl, ?_⟩
    have different : id ≠ id' := fun same => other (same ▸ rfl)
    simp only [Engine.invoke, Sources.engine, Sources.close, Response.bytesFor_nil,
      Invocation.command, Command.requestOf?, Option.toList_none, List.map_nil, List.nil_append,
      List.append_nil]
    rw [Response.bytesFor, List.filter_filter, Response.bytesFor]
    congr 1
    refine List.filter_congr fun r _ => ?_
    by_cases hr : r.session = id <;> simp [hr, different]

/-- The driver takes a step that closes another number, if any: from the front of what is owed to a
    number goes what is handed out to it. When the driver is told to stop, the requests at the end
    are lost. -/
theorem owed_step (h : Hub Sources) {id : SessionId} (other : h.phase ≠ .calling (.close id)) :
    ∃ lost, h.owed id =
        Response.bytesFor id h.passing ++ (h.step Sources.engine).owed id ++ lost ∧
      ((h.step Sources.engine).isRunning ∨ .shutdown ∉ h.commands → lost = []) := by
  cases h.stepped Sources.engine with
  | quiet engine mailboxes running before routing commands =>
    refine ⟨[], ?_, fun _ => rfl⟩
    rw [owed, owed, engine, before, routing]
    rcases commands with commands | ⟨none_before, commands⟩
    · rw [commands]
      simp
    · rw [commands, none_before]
      simp [Command.requestsOf_cons, Command.requestOf?]
  | stopped engine mailboxes running before routing commands cause =>
    have passing := passing_of_routing_nil before
    refine ⟨(Command.requestsOf id h.commands).map h.engine.answer, ?_, ?_⟩
    · rw [owed, owed, engine, passing, before, routing, commands]
      simp [Command.requestsOf]
    · rintro (still | goes_on)
      · simp [running] at still
      · rw [cause.resolve_left goes_on]
        rfl
  | answered call answer calling result engine mailboxes running before routing commands =>
    have different : call ≠ .close id := fun same => other (same ▸ calling)
    obtain ⟨answers, moved⟩ := owed_of_call different result
    refine ⟨[], ?_, fun _ => rfl⟩
    rw [owed, owed, passing_of_routing_nil before, before, routing, engine, answers, moved, commands,
      Command.requestsOf_cons]
    simp
  | panicked call calling result =>
    cases call <;> cases result
  | routed d delivering engine size mailboxes running commands =>
    refine ⟨[], ?_, fun _ => rfl⟩
    rw [owed, owed, engine, commands, passing_of_delivering delivering,
      routing_of_delivering delivering]
    simp [Response.bytesFor_cons]

/-- What comes in from outside is owed after all else. -/
theorem owed_of_queued {h h' : Hub Sources} {more : List Command} (q : Queued h h' more)
    (id : SessionId) :
    h'.owed id = h.owed id ++ (Command.requestsOf id more).map h.engine.answer := by
  have routing : h'.routing = h.routing := by rw [Hub.routing, q.phase, Hub.routing]
  rw [owed, routing, q.engine, q.commands, Command.requestsOf_append, List.map_append,
    ← List.append_assoc, owed]

/-! ## The invariant -/

/-- Whether session `k` is open and its mailbox is attended. -/
def isServed {σ : Type} (h : Hub σ) (k : Nat) : Bool :=
  h.isOpen k && h.mailboxes[k]?.any (·.attended)

theorem isServed_iff {σ : Type} {h : Hub σ} {k : Nat} :
    h.isServed k ↔ h.isOpen k ∧ h.mailboxes[k]?.any (·.attended) :=
  Bool.and_eq_true_iff

theorem isOpen_of_isServed {σ : Type} {h : Hub σ} {k : Nat} (served : h.isServed k) : h.isOpen k :=
  (isServed_iff.mp served).1

/-- Whether the delivery that the driver has begun leads to the mailbox of session `k` only if it is
    for that session, and does so if the session is still open. -/
structure Directed {σ : Type} (h : Hub σ) : Prop where
  owner : ∀ (d : Delivery) (rest : List Response) (k : Nat), h.phase = .delivering d rest →
    d.found = some (.mailbox k) → d.session = sessionId k ∧ k < h.sessions.size
  reached : ∀ (d : Delivery) (rest : List Response) (k : Nat), h.phase = .delivering d rest →
    d.session = sessionId k → h.isOpen k → d.found = some (.mailbox k)

namespace Directed

variable {σ : Type} {h : Hub σ}

theorem of_not_delivering (past : ∀ d rest, h.phase ≠ .delivering d rest) : h.Directed where
  owner d rest _ delivering := absurd delivering (past d rest)
  reached d rest _ delivering := absurd delivering (past d rest)

/-- Sessions may be opened and closed, if none is opened whose number the delivery is for. -/
theorem of_phase (r : h.Directed) {h' : Hub σ} (phase : h'.phase = h.phase)
    (size : h.sessions.size ≤ h'.sessions.size)
    (fewer : ∀ (k : Nat) (x : Response), x ∈ h.routing → x.session = sessionId k →
      h'.isOpen k → h.isOpen k) : h'.Directed where
  owner d rest k delivering found := by
    obtain ⟨session, inside⟩ := r.owner d rest k (phase ▸ delivering) found
    exact ⟨session, Nat.lt_of_lt_of_le inside size⟩
  reached d rest k delivering session live := by
    rw [phase] at delivering
    refine r.reached d rest k delivering session (fewer k d.response ?_ session live)
    rw [routing_of_delivering delivering]
    exact List.mem_cons_self

/-- The driver begins a delivery by looking up the callback that the number has now. -/
theorem drive (E : Engine σ) (o : h.Owned) : (h.step E).Directed := by
  have sessions := (h.step_frame E).sessions
  by_cases routing : ∃ r rest, h.phase = .routing (r :: rest)
  · obtain ⟨r, rest, routing⟩ := routing
    rw [step_of_routing E routing] at sessions ⊢
    constructor
    · rintro d more k ⟨⟩ found
      obtain ⟨j, live, session, same⟩ := o.callback?_eq_some.mp found
      cases same
      exact ⟨session, lt_of_isOpen live⟩
    · rintro d more k ⟨⟩ session live
      exact o.callback?_eq_some.mpr ⟨k, live, session, rfl⟩
  · exact of_not_delivering fun d rest delivering =>
      routing (routing_of_step_delivering E delivering)

/-- Nothing is handed to a session that is not opened yet. -/
theorem handing_of_unopened (r : h.Directed) {k : Nat} (hk : h.sessions.size ≤ k) :
    h.handing k = [] := by
  unfold handing
  split
  · next d rest delivering =>
    refine if_neg fun leads => ?_
    exact Nat.not_lt.mpr hk (r.owner d rest k delivering leads.1).2
  · rfl

/-- A session is opened, and nothing that is handed out is for its number. -/
theorem openMailbox (r : h.Directed) (few : h.sessions.size + 1 < UInt32.size)
    (known : ∀ x ∈ h.routing, ∃ k < h.sessions.size, x.session = sessionId k) :
    h.openMailbox.1.Directed := by
  have size : h.openMailbox.1.sessions.size = h.sessions.size + 1 := Array.size_push _
  refine r.of_phase rfl (by omega) fun k x there session live => ?_
  refine ((Owned.isOpen_openMailbox h k).mp live).resolve_right ?_
  rintro rfl
  obtain ⟨j, inside, same⟩ := known x there
  have last := Hub.sessionId_inj (by omega) few (same.symm.trans session)
  exact Nat.ne_of_lt inside last

theorem handing_openMailbox (r : h.Directed) (o : h.Owned) (k : Nat) :
    h.openMailbox.1.handing k = h.handing k := by
  have phase : h.openMailbox.1.phase = h.phase := rfl
  unfold handing
  rw [phase]
  split
  · next d rest delivering =>
    have pushed : h.openMailbox.1.mailboxes = h.mailboxes.push {} := rfl
    unfold delivered
    by_cases last : k = h.mailboxes.size
    · have elsewhere : d.found ≠ some (.mailbox k) := fun found =>
        Nat.ne_of_lt (r.owner d rest k delivering found).2 (last.trans o.mailboxes)
      rw [if_neg fun leads => elsewhere leads.1, if_neg fun leads => elsewhere leads.1]
    · rw [pushed, Array.getElem?_push, if_neg last]
  · rfl

/-- What is handed to a session that is served is what is handed out to its number. -/
theorem handing_of_served (r : h.Directed) {k : Nat} (served : h.isServed k) :
    h.handing k = Response.bytesFor (sessionId k) h.passing := by
  obtain ⟨live, attended⟩ := isServed_iff.mp served
  unfold handing passing
  cases phase : h.phase with
  | delivering d rest =>
    have leads : d.found = some (.mailbox k) ↔ d.session = sessionId k :=
      ⟨fun found => (r.owner d rest k phase found).1, fun same => r.reached d rest k phase same live⟩
    simp only [delivered, leads, attended, and_true, Response.bytesFor_cons, Response.bytesFor_nil,
      List.append_nil]
    rfl
  | _ => rfl

end Directed

/-- A delivery that the driver begins leads to a session that is served, or adds nothing. -/
theorem handing_step_of_not_served {σ : Type} (E : Engine σ) {h : Hub σ} (o : h.Owned) {k : Nat}
    (past : ¬ h.isServed k) : (h.step E).handing k = [] := by
  unfold handing
  split
  · next d rest delivering =>
    obtain ⟨r, rest, routing⟩ := routing_of_step_delivering E delivering
    rw [step_of_routing E routing] at delivering ⊢
    cases delivering
    refine if_neg fun leads => past ?_
    obtain ⟨j, live, -, same⟩ := o.callback?_eq_some.mp leads.1
    cases same
    exact isServed_iff.mpr ⟨live, leads.2⟩
  · rfl

theorem SameRecord.isServed {σ : Type} {h h' : Hub σ} (same : h.SameRecord h') (k : Nat) :
    h'.isServed k = h.isServed k := by
  rw [Hub.isServed, isOpen, same.sessions, same.attended, Hub.isServed, isOpen]

theorem isServed_step {σ : Type} (E : Engine σ) (h : Hub σ) (k : Nat) :
    (h.step E).isServed k = h.isServed k :=
  (h.sameRecord_step E).isServed k

/-- What session `k` waits for: what is being handed out to it, what the engine has queued for it,
    and the answers to its requests that the driver has not come to. -/
def outstanding (h : Hub Sources) (k : Nat) : List Bytes :=
  Response.bytesFor (sessionId k) h.routing ++ Response.bytesFor (sessionId k) h.engine.queued ++
    (Command.requestsOf (sessionId k) h.commands).map h.engine.answer

theorem outstanding_eq_owed (h : Hub Sources) (k : Nat) :
    h.outstanding k = h.owed (sessionId k) := rfl

/-- What is about to be handed to a session that is served is the first of what it waits for. -/
theorem Directed.handing_prefix_outstanding {h : Hub Sources} (r : h.Directed) {k : Nat}
    (served : h.isServed k) : h.handing k <+: h.outstanding k := by
  obtain ⟨rest, parts⟩ := h.passing_prefix
  rw [r.handing_of_served served, outstanding, ← parts, Response.bytesFor_append,
    List.append_assoc, List.append_assoc]
  exact List.prefix_append _ _

/-- How what sessions have asked and what was handed to them stand to each other, in a hub that
    hosts the sources of `s`. -/
structure Served (s : Sources) (h : Hub Sources) (asked handed : Nat → List Bytes) : Prop where
  owned : h.Owned
  directed : h.Directed
  watchful : h.Watchful Sources.engine
  hosted : h.engine.hosted = s.hosted
  routing : ∀ r ∈ h.routing, ∃ k < h.sessions.size, r.session = sessionId k
  queued : ∀ r ∈ h.engine.queued, ∃ k < h.sessions.size, r.session = sessionId k
  /-- A session that was not opened yet has asked nothing and got nothing. -/
  fresh : ∀ k, h.sessions.size ≤ k → asked k = [] ∧ handed k = []
  /-- What waits is all that is missing, unless the driver has stopped and forgotten requests. -/
  rest : ∀ k, h.isServed k → handed k ++ h.outstanding k <+: (asked k).map s.answer ∧
    (h.isRunning → handed k ++ h.outstanding k = (asked k).map s.answer)
  /-- What is about to be handed to a session that was closed meanwhile is in order, too. -/
  got : ∀ k, handed k ++ h.handing k <+: (asked k).map s.answer

namespace Served

variable {s : Sources} {h : Hub Sources} {asked handed : Nat → List Bytes}

/-- Moves that leave alone what is on its way to sessions, and open none. -/
theorem of_same (v : Served s h asked handed) {h' : Hub Sources} (owned : h'.Owned)
    (scheduled : h'.pollScheduled = h.pollScheduled) (phase : h'.phase = h.phase)
    (engine : h'.engine = h.engine)
    (requests : ∀ id, Command.requestsOf id h'.commands = Command.requestsOf id h.commands)
    (size : h'.sessions.size = h.sessions.size) (live : ∀ k, h'.isOpen k → h.isOpen k)
    (attended : ∀ k : Nat, h'.mailboxes[k]?.any (·.attended) → h.mailboxes[k]?.any (·.attended)) :
    Served s h' asked handed := by
  have routing : h'.routing = h.routing := by rw [Hub.routing, phase, Hub.routing]
  have running : h'.isRunning = h.isRunning := by rw [isRunning, phase, isRunning]
  have served : ∀ k, h'.isServed k → h.isServed k := by
    intro k served
    obtain ⟨still, there⟩ := isServed_iff.mp served
    exact isServed_iff.mpr ⟨live k still, attended k there⟩
  exact {
    owned
    directed := v.directed.of_phase phase (Nat.le_of_eq size.symm) fun k _ _ _ => live k
    watchful := v.watchful.of_same engine scheduled phase
    hosted := engine ▸ v.hosted
    routing := by
      rw [routing, size]
      exact v.routing
    queued := by
      rw [engine, size]
      exact v.queued
    fresh := size ▸ v.fresh
    rest := by
      intro k live
      rw [outstanding, routing, engine, requests, running]
      exact v.rest k (served k live)
    got := by
      intro k
      refine List.IsPrefix.trans ?_ (v.got k)
      rw [List.prefix_append_right_inj]
      exact handing_prefix phase attended k }

/-- Moves that leave sessions and mailboxes alone. -/
theorem of_same_record (v : Served s h asked handed) {h' : Hub Sources} (owned : h'.Owned)
    (scheduled : h'.pollScheduled = h.pollScheduled) (phase : h'.phase = h.phase)
    (engine : h'.engine = h.engine)
    (requests : ∀ id, Command.requestsOf id h'.commands = Command.requestsOf id h.commands)
    (sessions : h'.sessions = h.sessions) (mailboxes : h'.mailboxes = h.mailboxes) :
    Served s h' asked handed := by
  refine v.of_same owned scheduled phase engine requests (by rw [sessions]) (fun k live => ?_)
    fun k attended => mailboxes ▸ attended
  rwa [isOpen, sessions] at live

/-- The driver takes a step: from the front of what a session waits for goes what is handed to it.
    When the driver stops, the requests at the end are lost. -/
theorem outstanding_step (v : Served s h asked handed) {k : Nat} (served : h.isServed k) :
    ∃ lost, h.outstanding k = h.handing k ++ (h.step Sources.engine).outstanding k ++ lost ∧
      ((h.step Sources.engine).isRunning → lost = []) := by
  -- a session that the engine closes is closed already, and so it is not this one
  have other : h.phase ≠ .calling (.close (sessionId k)) := by
    intro closing
    obtain ⟨j, hj, hid, past⟩ := v.owned.closing (sessionId k) (by
      rw [commands_of_calling closing]
      exact List.mem_cons_self)
    have live := isOpen_of_isServed served
    rw [v.owned.sessionId_inj (lt_of_isOpen live) hj hid] at live
    exact past live
  obtain ⟨lost, parts, nothing⟩ := h.owed_step other
  refine ⟨lost, ?_, fun running => nothing (.inl running)⟩
  rw [outstanding_eq_owed, outstanding_eq_owed, v.directed.handing_of_served served]
  exact parts

/-- The driver takes a step: what is on its way stays addressed to sessions that were opened. -/
theorem known_step (v : Served s h asked handed) :
    (h.step Sources.engine).engine.hosted = s.hosted ∧
    (∀ r ∈ (h.step Sources.engine).routing, ∃ k < h.sessions.size, r.session = sessionId k) ∧
    ∀ r ∈ (h.step Sources.engine).engine.queued, ∃ k < h.sessions.size, r.session = sessionId k := by
  cases h.stepped Sources.engine with
  | quiet engine mailboxes running before routing commands =>
    rw [engine, routing]
    exact ⟨v.hosted, v.routing, v.queued⟩
  | stopped engine mailboxes running before routing commands =>
    rw [engine, routing]
    exact ⟨v.hosted, nofun, v.queued⟩
  | answered call answer calling result engine mailboxes running before routing commands =>
    rw [engine, routing]
    cases call with
    | request id bytes =>
      cases Option.some.inj result
      refine ⟨v.hosted, nofun, fun r hr => ?_⟩
      rcases List.mem_append.mp hr with hr | hr
      · exact v.queued r hr
      · cases List.mem_singleton.mp hr
        refine v.owned.asking id bytes ?_
        rw [commands]
        exact List.mem_cons_self
    | poll =>
      cases Option.some.inj result
      exact ⟨v.hosted, fun r hr => v.queued r (List.mem_of_mem_take hr),
        fun r hr => v.queued r (List.mem_of_mem_drop hr)⟩
    | close id =>
      cases Option.some.inj result
      exact ⟨v.hosted, nofun, fun r hr => v.queued r (List.mem_filter.mp hr |>.1)⟩
  | panicked call calling result =>
    cases call <;> cases result
  | routed d delivering engine size mailboxes running commands =>
    rw [engine]
    refine ⟨v.hosted, fun r hr => v.routing r ?_, v.queued⟩
    rw [routing_of_delivering delivering]
    exact List.mem_cons_of_mem _ hr

theorem drive (v : Served s h asked handed) :
    Served s (h.step Sources.engine) asked fun k => handed k ++ h.handing k := by
  obtain ⟨hosted, routing, queued⟩ := v.known_step
  have size : (h.step Sources.engine).sessions.size = h.sessions.size :=
    congrArg Array.size (h.step_frame Sources.engine).sessions
  have directed : (h.step Sources.engine).Directed := .drive Sources.engine v.owned
  have rest : ∀ k, (h.step Sources.engine).isServed k →
      (handed k ++ h.handing k) ++ (h.step Sources.engine).outstanding k <+: (asked k).map s.answer ∧
      ((h.step Sources.engine).isRunning →
        (handed k ++ h.handing k) ++ (h.step Sources.engine).outstanding k
          = (asked k).map s.answer) := by
    intro k served
    rw [isServed_step] at served
    obtain ⟨fits, whole⟩ := v.rest k served
    obtain ⟨lost, parts, nothing⟩ := v.outstanding_step served
    rw [parts] at fits whole
    refine ⟨?_, fun still => ?_⟩
    · exact List.IsPrefix.trans ⟨lost, by simp only [List.append_assoc]⟩ fits
    · rw [nothing still, List.append_nil] at whole
      rw [List.append_assoc]
      exact whole (running_of_step still)
  exact {
    owned := v.owned.drive Sources.engine
    directed
    watchful := v.watchful.step_of_sources
    hosted
    routing := size ▸ routing
    queued := size ▸ queued
    fresh := by
      intro k hk
      rw [size] at hk
      obtain ⟨nothing, none_got⟩ := v.fresh k hk
      exact ⟨nothing, by rw [none_got, v.directed.handing_of_unopened hk, List.append_nil]⟩
    rest
    got := by
      intro k
      by_cases served : h.isServed k
      · have served : (h.step Sources.engine).isServed k := by rwa [isServed_step]
        have next := directed.handing_prefix_outstanding served
        exact ((List.prefix_append_right_inj _).mpr next).trans (rest k served).1
      · rw [handing_step_of_not_served Sources.engine v.owned served, List.append_nil]
        exact v.got k }

/-- A command comes in, or is discarded, that is no request. -/
theorem send (v : Served s h asked handed) {c : Command} (owned : (h.send c).1.Owned)
    (request : ∀ id, c.requestOf? id = none) : Served s (h.send c).1 asked handed := by
  by_cases running : h.isRunning
  · rw [send_eq running] at owned ⊢
    refine v.of_same_record owned rfl rfl rfl (fun id => ?_) rfl rfl
    rw [h.commands_append, Command.requestsOf_append, Command.requestsOf_singleton, request id]
    simp
  · rw [send_of_not_running running] at owned ⊢
    exact v.of_same_record owned rfl rfl rfl (fun _ => rfl) rfl rfl

/-- A request is accepted if its session is open and the driver has not stopped. -/
theorem asked_request (v : Served s h asked handed) (j : Nat) (bytes : Bytes) (k : Nat) :
    (Move.request j bytes).asked k h =
      if j = k ∧ (h.isOpen j && h.isRunning) then [bytes] else [] := by
  have accepted : (h.request k bytes).2.isOk = (h.isOpen k && h.isRunning) := by
    rw [Hub.request, v.owned.sendFor_eq]
    by_cases live : h.isOpen k <;> by_cases running : h.isRunning <;>
      simp [live, running, Hub.send, Except.isOk, Except.toBool]
  by_cases hjk : j = k
  · subst hjk
    simp only [Move.asked, accepted]
  · simp only [Move.asked, hjk, false_and]

theorem request_refused (v : Served s h asked handed) {j : Nat} {bytes : Bytes}
    (no : ¬ (h.isOpen j && h.isRunning)) : Served s (h.request j bytes).1
      (fun k => asked k ++ (Move.request j bytes).asked k h) handed := by
  have owned := v.owned.request j bytes
  have nothing : ∀ k, (Move.request j bytes).asked k h = [] := by
    intro k
    rw [v.asked_request, if_neg fun yes => no yes.2]
  simp only [nothing, List.append_nil]
  rw [Hub.request, v.owned.sendFor_eq] at owned ⊢
  split at owned
  · next live =>
    have past : ¬ h.isRunning := by simpa [live] using no
    rw [if_pos live]
    rw [send_of_not_running past] at owned ⊢
    exact v.of_same_record owned rfl rfl rfl (fun _ => rfl) rfl rfl
  · next closed =>
    rw [if_neg closed]
    exact v

theorem request_accepted (v : Served s h asked handed) {j : Nat} {bytes : Bytes}
    (live : h.isOpen j) (running : h.isRunning) : Served s (h.request j bytes).1
      (fun k => asked k ++ (Move.request j bytes).asked k h) handed := by
  have owned := v.owned.request j bytes
  have asks : ∀ k, (Move.request j bytes).asked k h = if j = k then [bytes] else [] := by
    intro k
    simp only [v.asked_request, live, running, Bool.and_self, and_true]
  have more : ∀ k, asked k <+: asked k ++ (Move.request j bytes).asked k h :=
    fun k => List.prefix_append _ _
  have size := lt_of_isOpen live
  have sent : (h.request j bytes).1 =
      { h with queue := h.queue ++ [.request (sessionId j) bytes] } := by
    rw [Hub.request, v.owned.sendFor_eq, if_pos live, send_eq running]
  have answers : h.engine.answer = s.answer := Sources.answer_congr v.hosted
  rw [sent] at owned ⊢
  exact {
    owned
    directed := v.directed.of_phase rfl (Nat.le_refl _) fun _ _ _ _ live => live
    watchful := v.watchful.of_same rfl rfl rfl
    hosted := v.hosted
    routing := v.routing
    queued := v.queued
    fresh := by
      intro k hk
      obtain ⟨nothing, none_got⟩ := v.fresh k hk
      refine ⟨?_, none_got⟩
      rw [nothing, asks, List.nil_append, if_neg]
      rintro rfl
      exact Nat.not_lt.mpr hk size
    rest := by
      intro k served
      have served : h.isServed k := served
      -- what session `k` waits for grows by the answer, if it is this one that asks
      have longer : ({ h with queue := h.queue ++ [.request (sessionId j) bytes] }
          : Hub Sources).outstanding k
            = h.outstanding k ++ ((Move.request j bytes).asked k h).map s.answer := by
        have same : sessionId j = sessionId k ↔ j = k := by
          have live := isOpen_of_isServed served
          exact ⟨v.owned.sessionId_inj size (lt_of_isOpen live), congrArg sessionId⟩
        rw [outstanding, h.commands_append, outstanding, Command.requestsOf_append,
          Command.requestsOf_singleton, List.map_append, asks, answers]
        simp only [Command.requestOf?, same]
        by_cases hjk : j = k
        · simp [hjk, Hub.routing, List.append_assoc]
        · simp [hjk, Hub.routing]
      obtain ⟨-, whole⟩ := v.rest k served
      rw [longer, List.map_append, ← List.append_assoc, whole running]
      exact ⟨List.prefix_rfl, fun _ => rfl⟩
    got := fun k => (v.got k).trans ((more k).map _) }

theorem request (v : Served s h asked handed) (j : Nat) (bytes : Bytes) :
    Served s (h.request j bytes).1 (fun k => asked k ++ (Move.request j bytes).asked k h) handed := by
  by_cases yes : h.isOpen j && h.isRunning
  · obtain ⟨live, running⟩ := (Bool.and_eq_true _ _).mp yes
    exact v.request_accepted live running
  · exact v.request_refused yes

/-- A session is closed: it is not served any more. -/
theorem close (v : Served s h asked handed) (j : Nat) : Served s (h.close j) asked handed := by
  have owned := v.owned.close j
  have fewer := fun k => (v.owned.isOpen_close k j).mp
  by_cases live : h.isOpen j
  · obtain ⟨log, closed⟩ := v.owned.close_of_open live
    rw [closed] at owned fewer ⊢
    refine v.of_same owned rfl rfl rfl (fun id => ?_) Array.size_modify (fun k live => (fewer k live).1)
      fun _ attended => attended
    have commands : ({ h with
        sessions := h.sessions.modify j fun s => { s with closed := true }
        directory := h.directory.remove (sessionId j)
        queue := h.queue ++ if h.isRunning then [.close (sessionId j)] else []
        log } : Hub Sources).commands
          = h.commands ++ if h.isRunning then [.close (sessionId j)] else [] :=
      h.commands_append _
    rw [commands, Command.requestsOf_append]
    split
    · simp [Command.requestsOf_singleton, Command.requestOf?]
    · exact List.append_nil _
  · rw [close_of_not_open live]
    exact v

/-- A session is opened: it has asked nothing, and nothing is on its way to it. -/
theorem openMailbox (v : Served s h asked handed) (few : h.sessions.size + 1 < UInt32.size) :
    Served s h.openMailbox.1 asked handed := by
  have owned := v.owned.openMailbox few
  have size : h.openMailbox.1.sessions.size = h.sessions.size + 1 := Array.size_push _
  have later : ∀ id, (∃ k < h.sessions.size, id = sessionId k) →
      ∃ k < h.openMailbox.1.sessions.size, id = sessionId k := by
    rintro id ⟨k, hk, hid⟩
    exact ⟨k, size ▸ Nat.lt_succ_of_lt hk, hid⟩
  have other : ∀ id, (∃ k < h.sessions.size, id = sessionId k) → id ≠ sessionId h.sessions.size := by
    rintro id ⟨k, hk, rfl⟩ same
    have := owned.sessionId_inj (size ▸ Nat.lt_succ_of_lt hk) (size ▸ Nat.lt_succ_self _) same
    omega
  exact {
    owned
    directed := v.directed.openMailbox few v.routing
    watchful := v.watchful.of_same rfl rfl rfl
    hosted := v.hosted
    routing := fun r hr => later r.session (v.routing r hr)
    queued := fun r hr => later r.session (v.queued r hr)
    fresh := fun k hk => v.fresh k (by omega)
    rest := by
      intro k served
      have same : h.openMailbox.1.outstanding k = h.outstanding k := rfl
      rw [same]
      rw [isServed_iff, Owned.isOpen_openMailbox] at served
      obtain ⟨live | rfl, attended⟩ := served
      · refine v.rest k ?_
        have inside := lt_of_isOpen live
        rw [← v.owned.mailboxes] at inside
        have old : h.openMailbox.1.mailboxes[k]? = h.mailboxes[k]? := by
          show (h.mailboxes.push _)[k]? = _
          rw [Array.getElem?_push, if_neg (Nat.ne_of_lt inside)]
        rw [old] at attended
        exact isServed_iff.mpr ⟨live, attended⟩
      · -- its number was not given before, and so nothing is addressed to it
        obtain ⟨nothing, none_got⟩ := v.fresh _ (Nat.le_refl _)
        have empty : h.outstanding h.sessions.size = [] := by
          rw [outstanding, Response.bytesFor_eq_nil fun r hr => other _ (v.routing r hr),
            Response.bytesFor_eq_nil fun r hr => other _ (v.queued r hr),
            Command.requestsOf_eq_nil fun id bytes hc => other id (v.owned.asking id bytes hc)]
          rfl
        rw [nothing, none_got, empty]
        exact ⟨List.prefix_rfl, fun _ => rfl⟩
    got := by
      intro k
      rw [v.directed.handing_openMailbox v.owned]
      exact v.got k }

/-- What is done to a mailbox other than adding to it does not make it attended. -/
theorem modifyMailbox (v : Served s h asked handed) (j : Nat) {f : Mailbox → Mailbox}
    (fewer : ∀ m, (f m).attended → m.attended)
    (owned : ({ h with mailboxes := h.mailboxes.modify j f } : Hub Sources).Owned) :
    Served s { h with mailboxes := h.mailboxes.modify j f } asked handed := by
  refine v.of_same owned rfl rfl rfl (fun _ => rfl) rfl (fun _ live => live) fun k attended => ?_
  rw [Array.getElem?_modify] at attended
  cases hm : h.mailboxes[k]? with
  | none => simp [hm] at attended
  | some m =>
    rw [hm] at attended
    split at attended
    · exact fewer m attended
    · exact attended

theorem move (v : Served s h asked handed) (m : Move) (orderly : m.isOrderly)
    (few : h.sessions.size + (if m.opens then 1 else 0) < UInt32.size) :
    Served s (h.move Sources.engine m) (fun k => asked k ++ m.asked k h)
      fun k => handed k ++ m.added k h := by
  have owned := (v.owned.move Sources.engine m orderly few).1
  have plain : ∀ {h' : Hub Sources}, Served s h' asked handed →
      Served s h' (fun k => asked k ++ []) fun k => handed k ++ [] := by
    intro h' v'
    simpa only [List.append_nil] using v'
  cases m with
  | drive =>
    simp only [Move.asked, List.append_nil]
    exact v.drive
  | command c =>
    refine plain (v.send owned ?_)
    cases c with
    | request id bytes => cases orderly
    | poll => exact fun _ => rfl
    | close id => cases orderly
    | shutdown => exact fun _ => rfl
  | retain => exact plain (v.of_same_record owned rfl rfl rfl (fun _ => rfl) rfl rfl)
  | letGo => exact plain (v.of_same_record owned rfl rfl rfl (fun _ => rfl) rfl rfl)
  | openMailbox => exact plain (v.openMailbox few)
  | request j bytes =>
    simp only [Move.added, List.append_nil]
    exact v.request j bytes
  | poll j =>
    refine plain ?_
    simp only [Hub.move, Hub.poll, v.owned.sendFor_eq] at owned ⊢
    split at owned
    · next live =>
      rw [if_pos live]
      exact v.send owned fun _ => rfl
    · next past =>
      rw [if_neg past]
      exact v
  | close j => exact plain (v.close j)
  | drop j =>
    exact plain ((v.close j).of_same_record owned rfl rfl rfl (fun _ => rfl) rfl rfl)
  | read j =>
    refine plain ?_
    cases hu : h.unread j with
    | nil =>
      simp only [Hub.move, read?_of_nil hu]
      exact v
    | cons bytes rest =>
      simp only [Hub.move, read?_of_cons hu, Option.map_some, Option.getD_some] at owned ⊢
      exact v.modifyMailbox j (fun _ attended => attended) owned
  | readAll j => exact plain (v.modifyMailbox j (fun _ attended => attended) owned)
  | leave j => exact plain (v.modifyMailbox j (by rintro _ ⟨⟩) owned)
  | enrol callback => cases orderly
  | strike id => cases orderly
  | beginDelivery id bytes => cases orderly
  | completeDelivery i => cases orderly
  | log records => exact plain (v.of_same_record owned rfl rfl rfl (fun _ => rfl) rfl rfl)

/-- Any number of moves. -/
theorem moves (v : Served s h asked handed) (more : List Move) (orderly : ∀ m ∈ more, m.isOrderly)
    (few : h.sessions.size + openings more < UInt32.size) :
    Served s (Hub.after Sources.engine h more)
      (fun k => asked k ++ Hub.asked Sources.engine k h more)
      fun k => handed k ++ Hub.added Sources.engine k h more := by
  induction more generalizing h asked handed with
  | nil =>
    have nothing : ∀ k, Hub.asked Sources.engine k h [] = [] ∧ Hub.added Sources.engine k h [] = [] :=
      fun _ => ⟨rfl, rfl⟩
    simp only [nothing, List.append_nil]
    exact v
  | cons m more ih =>
    obtain ⟨first, orderly⟩ := List.forall_mem_cons.mp orderly
    have count : openings (m :: more) = (if m.opens then 1 else 0) + openings more := by
      rw [openings, List.countP_cons, Nat.add_comm, openings]
    rw [count, ← Nat.add_assoc] at few
    have size := (v.owned.move Sources.engine m first (by omega)).2
    have later := ih (v.move m first (by omega)) orderly (size ▸ few)
    simp only [List.append_assoc] at later
    exact later

/-- `Served` depends on `asked` and `handed` only at the sessions that are served. -/
theorem of_books (v : Served s h asked handed) {asked' handed' : Nat → List Bytes}
    (same : ∀ k, h.isServed k → asked' k = asked k ∧ handed' k = handed k)
    (got : ∀ k, handed' k ++ h.handing k <+: (asked' k).map s.answer)
    (fresh : ∀ k, h.sessions.size ≤ k → asked' k = [] ∧ handed' k = []) :
    Served s h asked' handed' :=
  { v with
    fresh
    got
    rest := by
      intro k served
      rw [(same k served).1, (same k served).2]
      exact v.rest k served }

/-- When the driver waits for a command, no session waits for anything. -/
theorem outstanding_of_blocked (v : Served s h asked handed) (ready : h.phase = .ready)
    (blocked : h.isBlocked) (k : Nat) : h.outstanding k = [] := by
  -- such a driver has no commands, hands nothing out, and its engine has nothing queued
  have idle : h.engine.queued = [] :=
    Sources.hasPending_eq_false_iff.mp (v.watchful.hasPending_of_blocked ready blocked)
  simp only [isBlocked, Bool.and_eq_true, List.isEmpty_iff] at blocked
  rw [outstanding, idle, commands_of_ready ready, blocked.1.1, Hub.routing, ready]
  rfl

end Served

theorem served_start (s : Sources) (empty : s.queued = []) (mode : Mode) :
    Served s { engine := s, mode } (fun _ => []) fun _ => [] where
  owned := owned_start s mode
  directed := .of_not_delivering nofun
  watchful _ _ := Sources.hasPending_eq_false_iff.mpr empty
  hosted := rfl
  routing := nofun
  queued := by simp [empty]
  fresh _ _ := ⟨rfl, rfl⟩
  rest _ _ := by simp [outstanding, routing, commands, empty, Command.requestsOf]
  got _ := List.prefix_rfl

/-- The invariant holds after every run that goes through sessions and opens fewer than `2 ^ 32`. -/
theorem served_after (s : Sources) (empty : s.queued = []) (mode : Mode) (moves : List Move)
    (orderly : ∀ m ∈ moves, m.isOrderly) (few : openings moves < UInt32.size) :
    Served s (after Sources.engine { engine := s, mode } moves)
      (fun k => asked Sources.engine k { engine := s, mode } moves)
      fun k => handed Sources.engine k { engine := s, mode } moves := by
  have v := (served_start s empty mode).moves moves orderly (by simpa using few)
  have nothing : ∀ k, ({ engine := s, mode } : Hub Sources).unread k = [] := fun _ => rfl
  simp only [List.nil_append] at v
  simp only [handed_eq, nothing, List.nil_append]
  exact v

/-- In every orderly run of a hub that hosts sources, with nothing queued at first and fewer than
    `2 ^ 32` sessions opened: `handed`, what mailbox `k` was given, is a prefix of the answers to
    the accepted requests `asked` of session `k`, and all of them when the driver is blocked,
    session `k` is open and its mailbox attended. -/
theorem handed_prefix_answers (s : Sources) (empty : s.queued = []) (mode : Mode)
    (moves : List Move) (orderly : ∀ m ∈ moves, m.isOrderly) (few : openings moves < UInt32.size)
    (k : Nat) :
    let start : Hub Sources := { engine := s, mode }
    let h := after Sources.engine start moves
    let answers := (asked Sources.engine k start moves).map s.answer
    h.openMailbox.2.1 = h.openMailbox.2.2 ∧
    handed Sources.engine k start moves <+: answers ∧
    (h.phase = .ready → h.isBlocked → h.isOpen k → h.mailboxes[k]?.any (·.attended) →
      handed Sources.engine k start moves = answers) := by
  intro start h answers
  have v : Served s h _ _ := served_after s empty mode moves orderly few
  have got : handed Sources.engine k start moves <+: answers :=
    (List.prefix_append _ _).trans (v.got k)
  refine ⟨v.owned.mailboxes.symm, got, fun ready blocked live attended => ?_⟩
  have running : h.isRunning := by rw [isRunning, ready]
  have whole := (v.rest k (isServed_iff.mpr ⟨live, attended⟩)).2 running
  rw [v.outstanding_of_blocked ready blocked, List.append_nil] at whole
  exact whole

/-- One request, after which the driver takes steps until it waits again. -/
theorem handed_one_request :
    let s : Sources := { hosted := [("note", [1, 2])] }
    let moves : List Move :=
      .openMailbox :: .request 0 [110, 111, 116, 101] :: List.replicate 7 .drive
    handed Sources.engine 0 { engine := s } moves = [[1, 2]] := by
  intro s moves
  obtain ⟨-, -, whole⟩ := handed_prefix_answers s rfl .cooperative moves (by decide) (by decide) 0
  have answers : (asked Sources.engine 0 { engine := s } moves).map s.answer = [[1, 2]] := by
    decide +kernel
  rw [← answers]
  exact whole (by decide +kernel) (by decide +kernel) (by decide +kernel) (by decide +kernel)

end Hub

end SessionHub
