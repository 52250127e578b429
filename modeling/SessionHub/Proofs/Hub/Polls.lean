import SessionHub.Engine.Sources
import SessionHub.Proofs.Hub.Run
import SessionHub.Proofs.Hub.Step

set_option autoImplicit false

/-! # When the driver polls

Only the driver schedules polls, and it takes one off its list only to make it
(`unscheduled_of_step`). Unless it has a poll scheduled, or is about to make one, it has an engine
that has no work left (`Watchful`). This lasts as long as calls do not panic and closing a session
makes no work. -/

namespace SessionHub

theorem Sources.hasPending_eq_false_iff {s : Sources} :
    engine.hasPending s = some false ↔ s.queued = [] := by
  simp [engine, hasPending]

theorem Sources.hasPending_close (s : Sources) (id : SessionId)
    (nothing : engine.hasPending s = some false) :
    engine.hasPending (engine.close s id).state = some false := by
  rw [hasPending_eq_false_iff] at nothing ⊢
  show s.queued.filter _ = []
  rw [nothing, List.filter_nil]

namespace Hub

variable {σ : Type}

/-! ## What schedules polls -/

theorem scheduling_send (h : Hub σ) (c : Command) :
    (h.send c).1.pollScheduled = h.pollScheduled ∧ (h.send c).1.mode = h.mode := by
  unfold send
  split <;> exact ⟨rfl, rfl⟩

theorem scheduling_sendFor (h : Hub σ) (k : Nat) (command : SessionId → Command) :
    (h.sendFor k command).1.pollScheduled = h.pollScheduled ∧
    (h.sendFor k command).1.mode = h.mode := by
  unfold sendFor
  split
  · exact ⟨rfl, rfl⟩
  · split
    · exact ⟨rfl, rfl⟩
    · exact h.scheduling_send _

theorem scheduling_close (h : Hub σ) (k : Nat) :
    (h.close k).pollScheduled = h.pollScheduled ∧ (h.close k).mode = h.mode := by
  unfold close
  split
  · exact ⟨rfl, rfl⟩
  · split
    · exact ⟨rfl, rfl⟩
    · dsimp only
      split
      · exact scheduling_send _ _
      · exact ⟨rfl, rfl⟩

/-- Only the driver schedules polls, and no move changes how calls are made. -/
theorem scheduling_move (E : Engine σ) (h : Hub σ) {m : Move} (outside : m ≠ .drive) :
    (h.move E m).pollScheduled = h.pollScheduled ∧ (h.move E m).mode = h.mode := by
  cases m with
  | drive => exact absurd rfl outside
  | command c => exact h.scheduling_send c
  | request k bytes => exact h.scheduling_sendFor k _
  | poll k => exact h.scheduling_sendFor k _
  | close k => exact h.scheduling_close k
  | drop k => exact h.scheduling_close k
  | read k =>
    simp only [move, read?]
    split <;> exact ⟨rfl, rfl⟩
  | completeDelivery i =>
    obtain ⟨mailboxes, log, completed, -, -⟩ := h.completeDelivery_eq i
    rw [move, completed]
    exact ⟨rfl, rfl⟩
  | _ => exact ⟨rfl, rfl⟩

/-- A step that makes no call leaves the engine alone, and a poll that was scheduled before it is
    still scheduled or about to be made. -/
theorem unscheduled_of_step (E : Engine σ) {h : Hub σ} (quiet : ∀ call, h.phase ≠ .calling call)
    (off : (h.step E).pollScheduled = false) (polls : (h.step E).phase ≠ .calling .poll) :
    h.pollScheduled = false ∧ (h.step E).engine = h.engine := by
  cases hp : h.phase with
  | starting =>
    have same : (h.step E).pollScheduled = h.pollScheduled ∧ (h.step E).engine = h.engine := by
      simp only [step, hp, start]
      cases h.mode <;> exact ⟨rfl, rfl⟩
    exact ⟨same.1.symm.trans off, same.2⟩
  | ready =>
    simp only [step, hp] at off polls ⊢
    rcases take_cases h with ⟨call, queue, -, taken⟩ | ⟨queue, -, taken⟩ | ⟨-, -, taken⟩
      | ⟨-, -, -, taken⟩ | ⟨-, taken⟩ <;> rw [taken] at off polls ⊢
    · -- a poll that is carried out is the only command that unschedules one
      have other : call ≠ .poll := fun same => polls (congrArg Phase.calling same)
      exact ⟨(if_neg other).symm.trans off, rfl⟩
    · exact ⟨off, rfl⟩
    · exact ⟨off, rfl⟩
    · exact absurd rfl polls
    · exact ⟨off, rfl⟩
  | calling call => exact absurd hp (quiet call)
  | routing responses =>
    simp only [step, hp] at off ⊢
    cases responses <;> exact ⟨off, rfl⟩
  | delivering d rest =>
    obtain ⟨mailboxes, log, passed, -, -⟩ := h.pass_eq d rest
    simp only [step, hp, passed] at off ⊢
    exact ⟨off, trivial⟩
  | stopped =>
    simp only [step, hp] at off ⊢
    exact ⟨off, trivial⟩
  | broken =>
    simp only [step, hp] at off ⊢
    exact ⟨off, trivial⟩

/-- After a call that gave an answer no poll is scheduled only if it was a poll and left no work, or
    if it closed a session and none was scheduled before. -/
theorem unscheduled_of_answer (E : Engine σ) {s : σ} {call : Invocation} {answer : Answer}
    {scheduled : Bool} (answered : (E.invoke s call).result = some answer)
    (off : answer.again.getD scheduled = false) :
    call = .poll ∧ E.hasPending (E.invoke s call).state = some false ∨
    (∃ id, call = .close id) ∧ scheduled = false := by
  cases call with
  | request id bytes =>
    obtain ⟨responses, -, rfl⟩ := Option.map_eq_some_iff.mp answered
    cases off
  | poll =>
    obtain ⟨responses, -, asked⟩ := Option.bind_eq_some_iff.mp answered
    obtain ⟨pending, left, rfl⟩ := Option.map_eq_some_iff.mp asked
    cases (show pending = false from off)
    exact .inl ⟨rfl, left⟩
  | close id =>
    obtain ⟨u, -, rfl⟩ := Option.map_eq_some_iff.mp answered
    exact .inr ⟨⟨id, rfl⟩, off⟩

/-! ## Watchfulness -/

/-- Whether the driver does not forget about work that the engine has left. -/
def Watchful (E : Engine σ) (h : Hub σ) : Prop :=
  h.pollScheduled = false → h.phase ≠ .calling .poll → E.hasPending h.engine = some false

namespace Watchful

variable {E : Engine σ} {h : Hub σ}

theorem of_same (w : h.Watchful E) {h' : Hub σ} (engine : h'.engine = h.engine)
    (scheduled : h'.pollScheduled = h.pollScheduled) (phase : h'.phase = h.phase) :
    h'.Watchful E := by
  intro off polls
  rw [engine]
  exact w (scheduled ▸ off) (phase ▸ polls)

theorem step (w : h.Watchful E)
    (answers : ∀ call, h.phase = .calling call → (E.invoke h.engine call).result ≠ none)
    (closes : ∀ id, h.phase = .calling (.close id) → E.hasPending h.engine = some false →
      E.hasPending (E.close h.engine id).state = some false) :
    (h.step E).Watchful E := by
  intro off polls
  by_cases quiet : ∀ call, h.phase ≠ .calling call
  · obtain ⟨off_before, engine⟩ := unscheduled_of_step E quiet off polls
    rw [engine]
    exact w off_before (quiet .poll)
  · obtain ⟨call, hp⟩ := Classical.not_forall_not.mp quiet
    simp only [Hub.step, hp] at off polls ⊢
    obtain ⟨answer, hr⟩ := Option.ne_none_iff_exists'.mp (answers call hp)
    rw [finish_of_answer E hr] at off ⊢
    obtain ⟨rfl, left⟩ | ⟨⟨id, rfl⟩, off_before⟩ := unscheduled_of_answer E hr off
    · exact left
    · exact closes id hp (w off_before (by simp [hp]))

/-- Sources never panic, and have nothing more queued when a session is closed. -/
theorem step_of_sources {h : Hub Sources} (w : h.Watchful Sources.engine) :
    (h.step Sources.engine).Watchful Sources.engine := by
  refine w.step (fun call _ => ?_) fun id _ nothing => Sources.hasPending_close _ id nothing
  cases call <;> exact Option.some_ne_none _

/-- A driver that waits for a command has an engine without work. -/
theorem hasPending_of_blocked (w : h.Watchful E) (ready : h.phase = .ready) (blocked : h.isBlocked) :
    E.hasPending h.engine = some false := by
  simp only [isBlocked, Bool.and_eq_true, Bool.not_eq_true'] at blocked
  exact w blocked.2 (by simp [ready])

end Watchful

end Hub

end SessionHub
