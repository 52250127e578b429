import SessionHub.Proofs.Hub.Delivery
import SessionHub.Proofs.Hub.Draining

set_option autoImplicit false

/-! # What is left when the last handle is dropped

A driver without handles carries out what is in its queue and stops. It does not make the poll that
it may have scheduled. In a hub that hosts sources the answers that such a poll would have given out
are lost: what was handed out and what is queued then are together the answers to all requests
(`handed_out_at_departure`), and if a poll was scheduled there may be something queued
(`answer_lost_at_departure`). -/

namespace SessionHub.Hub

/-! ## Stopping -/

theorem queue_of_no_commands {σ : Type} {h : Hub σ} (nothing : h.commands = []) : h.queue = [] := by
  unfold commands at nothing
  split at nothing
  · cases nothing
  · exact nothing

/-- A driver of sources that stops leaves no command in its queue. -/
theorem queue_of_stop {h : Hub Sources} (running : h.isRunning)
    (past : ¬ (h.step Sources.engine).isRunning) : (h.step Sources.engine).queue = [] := by
  cases h.stepped Sources.engine with
  | quiet engine mailboxes still => exact absurd (still ▸ running) past
  | stopped engine mailboxes stopped before routing commands => exact queue_of_no_commands commands
  | answered call answer calling result engine mailboxes still => exact absurd still past
  | panicked call calling result => cases call <;> cases result
  | routed d delivering engine size mailboxes still => exact absurd (still ▸ running) past

/-! ## The tally -/

/-- How the commands that were accepted, the responses that were handed out and what is owed to the
    number `id` stand to each other in a hub that hosts the sources of `s`. -/
structure Tally (s : Sources) (id : SessionId) (h : Hub Sources) (accepted : List Command)
    (routed : List Response) : Prop where
  hosted : h.engine.hosted = s.hosted
  known : ∀ c ∈ h.commands, c = .poll ∨ c ∈ accepted
  stopped : ¬ h.isRunning → h.queue = []
  /-- Unless a `shutdown` is accepted or the number is closed, no answer gets lost. -/
  whole : .shutdown ∉ accepted → .close id ∉ accepted →
    Response.bytesFor id routed ++ h.owed id = (Command.requestsOf id accepted).map s.answer

namespace Tally

variable {s : Sources} {id : SessionId} {h : Hub Sources} {accepted : List Command}
  {routed : List Response}

theorem drive (t : Tally s id h accepted routed) :
    Tally s id (h.step Sources.engine) accepted (routed ++ h.passing) where
  hosted := by
    cases h.stepped Sources.engine with
    | quiet engine => rw [engine, t.hosted]
    | stopped engine => rw [engine, t.hosted]
    | answered call answer calling result engine =>
      rw [engine, ← t.hosted]
      cases call <;> rfl
    | panicked call calling result => cases call <;> cases result
    | routed d delivering engine => rw [engine, t.hosted]
  known c hc := by
    rcases mem_commands_of_step Sources.engine hc with rfl | hc
    · exact .inl rfl
    · exact t.known c hc
  stopped past := by
    by_cases running : h.isRunning
    · exact queue_of_stop running past
    · have idle : h.isIdle := by
        cases hp : h.phase <;> simp [isRunning, isIdle, hp] at running ⊢
      rw [step_eq_self Sources.engine idle]
      exact t.stopped running
  whole goes_on stays := by
    have other : h.phase ≠ .calling (.close id) := by
      intro closing
      have front : .close id ∈ h.commands := by
        rw [commands_of_calling closing]
        exact List.mem_cons_self
      exact stays ((t.known _ front).resolve_left (by simp))
    obtain ⟨lost, parts, nothing⟩ := h.owed_step other
    rw [nothing (.inr fun stop => goes_on ((t.known _ stop).resolve_left (by simp))),
      List.append_nil] at parts
    rw [Response.bytesFor_append, List.append_assoc, ← parts]
    exact t.whole goes_on stays

theorem queued (t : Tally s id h accepted routed) {h' : Hub Sources} {more : List Command}
    (q : Queued h h' more) (taken : ¬ h.isRunning → more = []) :
    Tally s id h' (accepted ++ more) routed where
  hosted := q.engine ▸ t.hosted
  known c hc := by
    rw [q.commands, List.mem_append] at hc
    rcases hc with hc | hc
    · exact (t.known c hc).imp_right (List.mem_append_left _)
    · exact .inr (List.mem_append_right _ hc)
  stopped past := by
    have past : ¬ h.isRunning := by rwa [isRunning, q.phase, ← isRunning] at past
    rw [q.queue, taken past, t.stopped past, List.append_nil]
  whole goes_on stays := by
    rw [List.mem_append, not_or] at goes_on stays
    rw [owed_of_queued q, ← List.append_assoc, t.whole goes_on.1 stays.1, Command.requestsOf_append,
      List.map_append, Sources.answer_congr t.hosted]

theorem move (t : Tally s id h accepted routed) (m : Move) :
    Tally s id (h.move Sources.engine m) (accepted ++ m.accepted h) (routed ++ m.routed h) := by
  by_cases inside : m = .drive
  · subst inside
    have nothing : Move.drive.accepted h = [] := rfl
    rw [nothing, List.append_nil]
    exact t.drive
  · rw [routed_of_outside h inside, List.append_nil]
    refine t.queued (queued_move Sources.engine h inside) fun past => ?_
    rw [accepted_eq, if_neg past]

end Tally

theorem tally_after (s : Sources) (empty : s.queued = []) (mode : Mode) (moves : List Move)
    (id : SessionId) :
    let start : Hub Sources := { engine := s, mode }
    Tally s id (after Sources.engine start moves) (accepted Sources.engine start moves)
      (routed Sources.engine start moves) := by
  intro start
  refine Run.after_induction (Hub.move Sources.engine) (motive := fun moves h =>
    Tally s id h (accepted Sources.engine start moves) (routed Sources.engine start moves)) start ?_ ?_
    moves
  · exact {
      hosted := rfl
      known := nofun
      stopped := fun _ => rfl
      whole := fun _ _ => by simp [owed, accepted, routed, start, routing, commands, empty] }
  · intro moves m t
    rw [accepted, routed, Run.seen_concat, Run.seen_concat]
    exact t.move m

/-! ## The law -/

/-- In every run of a hub that hosts sources, with nothing queued at first: if the driver has
    stopped without a `shutdown`, then for every number that no `close` was accepted for, what was
    handed out and what the engine still has queued are together the answers to its requests, in
    order. So all such numbers got all of their answers exactly if nothing is queued for them, and
    nothing is queued at all if no poll is scheduled. -/
theorem handed_out_at_departure (s : Sources) (empty : s.queued = []) (mode : Mode)
    (moves : List Move) :
    let start : Hub Sources := { engine := s, mode }
    let h := after Sources.engine start moves
    let commands := accepted Sources.engine start moves
    let answers := fun id => (Command.requestsOf id commands).map s.answer
    let got := fun id => Response.bytesFor id (routed Sources.engine start moves)
    h.phase = .stopped → .shutdown ∉ commands →
      (∀ id, .close id ∉ commands → got id ++ Response.bytesFor id h.engine.queued = answers id) ∧
      ((∀ id, .close id ∉ commands → got id = answers id) ↔
        ∀ r ∈ h.engine.queued, .close r.session ∈ commands) ∧
      (h.pollScheduled = false → h.engine.queued = []) := by
  intro start h commands answers got stopped goes_on
  have parts : ∀ id, .close id ∉ commands →
      got id ++ Response.bytesFor id h.engine.queued = answers id := by
    intro id stays
    have t : Tally s id h commands _ := tally_after s empty mode moves id
    have left : h.owed id = Response.bytesFor id h.engine.queued := by
      have past : ¬ h.isRunning := by simp [isRunning, stopped]
      have none_left : h.commands = [] := by rw [Hub.commands, stopped, t.stopped past]
      rw [owed, none_left, routing, stopped]
      simp [Command.requestsOf]
    rw [← left]
    exact t.whole goes_on stays
  refine ⟨parts, ⟨fun all r hr => ?_, fun closed id stays => ?_⟩, fun off => ?_⟩
  · refine Decidable.byContradiction fun stays => ?_
    have nothing : Response.bytesFor r.session h.engine.queued = [] := by
      have whole := parts r.session stays
      rwa [all r.session stays, List.append_right_eq_self] at whole
    rw [Response.bytesFor, List.map_eq_nil_iff, List.filter_eq_nil_iff] at nothing
    exact nothing r hr (by simp)
  · have nothing : Response.bytesFor id h.engine.queued = [] :=
      Response.bytesFor_eq_nil fun r hr same => stays (same ▸ closed r hr)
    have whole := parts id stays
    rwa [nothing, List.append_nil] at whole
  · have watchful := watchful_after s empty mode moves
    have quiet : h.phase ≠ .calling .poll := by simp [stopped]
    exact Sources.hasPending_eq_false_iff.mp (watchful off quiet)

/-- A request that is answered before the last one goes. -/
theorem answer_kept_at_departure :
    let start : Hub Sources := { engine := {} }
    let moves : List Move := [.command (.request ⟨1⟩ [120]), .drive, .drive, .drive, .drive, .drive,
      .drive, .drive, .letGo, .drive]
    (after Sources.engine start moves).phase = .stopped ∧
    (after Sources.engine start moves).engine.queued = [] ∧
    Response.bytesFor ⟨1⟩ (routed Sources.engine start moves) = [[120]] := by
  intro start moves
  have stopped : (after Sources.engine start moves).phase = .stopped := by decide
  obtain ⟨parts, -, idle⟩ := handed_out_at_departure {} rfl .cooperative moves stopped (by decide)
  have nothing := idle (by decide)
  have whole := parts ⟨1⟩ (by decide)
  rw [nothing, Response.bytesFor_nil, List.append_nil] at whole
  exact ⟨stopped, nothing, whole.trans (by decide)⟩

/-- A request of an open session whose mailbox is attended. The last handle is dropped before it is
    carried out, and then the answer is queued, but never handed out. -/
theorem answer_lost_at_departure :
    let start : Hub Sources := { engine := {} }
    let moves : List Move := [.openMailbox, .enrol (.mailbox 0), .command (.request ⟨2⟩ [120]),
      .drop 0, .letGo, .drive, .drive, .drive, .drive, .drive, .drive]
    let h := after Sources.engine start moves
    accepted Sources.engine start moves = [.request ⟨2⟩ [120], .close ⟨1⟩] ∧
    h.phase = .stopped ∧ h.engine.queued = [⟨⟨2⟩, [120]⟩] ∧ h.pollScheduled ∧
    routed Sources.engine start moves = [] ∧
    h.directory.callback? ⟨2⟩ = some (.mailbox 0) ∧ h.mailboxes[0]?.any (·.attended) := by
  decide

end SessionHub.Hub
