import SessionHub.Proofs.Directory.Entries
import SessionHub.Proofs.Hub.Calls
import SessionHub.Proofs.Hub.Ownership

set_option autoImplicit false

/-! # What is on record

Sessions, the directory, and which mailboxes are attended are the record of a hub. Few moves change
it (`Move.changesRecord`); above all the driver never does. Of those that come from outside and
close nothing, none puts a closing into the queue (`accepted_of_plain`). -/

namespace SessionHub

/-- Whether a command closes a session. -/
def Command.isClose : Command → Bool
  | .close _ => true
  | _ => false

namespace Hub

variable {σ : Type}

/-- Whether two hubs have the same sessions, the same directory, and as many mailboxes, attended
    alike. -/
structure SameRecord (h h' : Hub σ) : Prop where
  sessions : h'.sessions = h.sessions
  directory : h'.directory = h.directory
  size : h'.mailboxes.size = h.mailboxes.size
  attended : ∀ k : Nat, h'.mailboxes[k]?.any (·.attended) = h.mailboxes[k]?.any (·.attended)

namespace SameRecord

variable {h h' h'' : Hub σ}

theorem refl (h : Hub σ) : h.SameRecord h :=
  ⟨rfl, rfl, rfl, fun _ => rfl⟩

theorem trans (first : h.SameRecord h') (second : h'.SameRecord h'') : h.SameRecord h'' where
  sessions := second.sessions.trans first.sessions
  directory := second.directory.trans first.directory
  size := second.size.trans first.size
  attended k := (second.attended k).trans (first.attended k)

theorem of_mailboxes (sessions : h'.sessions = h.sessions) (directory : h'.directory = h.directory)
    (mailboxes : h'.mailboxes = h.mailboxes) : h.SameRecord h' :=
  ⟨sessions, directory, by rw [mailboxes], fun _ => by rw [mailboxes]⟩

theorem modify (h : Hub σ) (k : Nat) {f : Mailbox → Mailbox}
    (same : ∀ m, (f m).attended = m.attended) :
    h.SameRecord { h with mailboxes := h.mailboxes.modify k f } where
  sessions := rfl
  directory := rfl
  size := Array.size_modify
  attended j := by
    simp only [Array.getElem?_modify]
    split
    · cases h.mailboxes[j]? <;> simp [same]
    · rfl

end SameRecord

/-! ## Moves -/

/-- Whether a move may change the record. -/
def Move.changesRecord : Move → Bool
  | .openMailbox | .close _ | .drop _ | .leave _ | .enrol _ | .strike _ => true
  | _ => false

variable (E : Engine σ)

theorem sameRecord_step (h : Hub σ) : h.SameRecord (h.step E) := by
  have frame := h.step_frame E
  have same := SameRecord.of_mailboxes frame.sessions frame.directory
  cases h.stepped E with
  | quiet engine mailboxes => exact same mailboxes
  | stopped engine mailboxes => exact same mailboxes
  | answered call answer calling result engine mailboxes => exact same mailboxes
  | panicked call calling result engine mailboxes => exact same mailboxes
  | routed d delivering engine size mailboxes =>
    refine ⟨frame.sessions, frame.directory, size, fun k => ?_⟩
    rw [mailboxes k]
    cases h.mailboxes[k]? <;> rfl

theorem sameRecord_send (h : Hub σ) (c : Command) : h.SameRecord (h.send c).1 := by
  unfold send
  split <;> exact .of_mailboxes rfl rfl rfl

theorem sameRecord_sendFor (h : Hub σ) (k : Nat) (command : SessionId → Command) :
    h.SameRecord (h.sendFor k command).1 := by
  unfold sendFor
  split
  · exact .refl h
  · split
    · exact .refl h
    · exact h.sameRecord_send _

theorem sameRecord_move (h : Hub σ) {m : Move} (other : m.changesRecord = false) :
    h.SameRecord (h.move E m) := by
  cases m with
  | drive => exact h.sameRecord_step E
  | command c => exact h.sameRecord_send c
  | retain => exact .of_mailboxes rfl rfl rfl
  | letGo => exact .of_mailboxes rfl rfl rfl
  | request k bytes => exact h.sameRecord_sendFor k _
  | poll k => exact h.sameRecord_sendFor k _
  | read k =>
    simp only [move, read?]
    split
    · exact .refl h
    · exact .modify h k fun _ => rfl
  | readAll k => exact .modify h k fun _ => rfl
  | beginDelivery id bytes => exact .of_mailboxes rfl rfl rfl
  | completeDelivery i =>
    obtain ⟨mailboxes, log, completed, size, each⟩ := h.completeDelivery_eq i
    rw [move, completed]
    refine ⟨rfl, rfl, size, fun k => ?_⟩
    simp only [each k]
    cases h.mailboxes[k]? <;> rfl
  | log records => exact .of_mailboxes rfl rfl rfl
  | openMailbox => cases other
  | close k => cases other
  | drop k => cases other
  | leave k => cases other
  | enrol callback => cases other
  | strike id => cases other

theorem sameRecord_after (h : Hub σ) {moves : List Move}
    (others : ∀ m ∈ moves, m.changesRecord = false) : h.SameRecord (after E h moves) := by
  induction moves generalizing h with
  | nil => exact .refl h
  | cons m moves ih =>
    obtain ⟨other, others⟩ := List.forall_mem_cons.mp others
    exact (h.sameRecord_move E other).trans (ih _ others)

/-! ## Moves that use a session -/

/-- Whether a move reads a mailbox, sends something for a session that it does not close, or logs
    something. -/
def Move.isPlain : Move → Bool
  | .request .. | .poll _ | .read _ | .log _ => true
  | _ => false

theorem sameRecord_of_plain (h : Hub σ) {moves : List Move} (plain : ∀ m ∈ moves, m.isPlain) :
    h.SameRecord (after E h moves) := by
  refine h.sameRecord_after E fun m hm => ?_
  have := plain m hm
  cases m <;> first | rfl | cases this

/-- What comes from outside only adds to the queue. -/
theorem queued_after (h : Hub σ) {moves : List Move} (outside : ∀ m ∈ moves, m ≠ .drive) :
    Queued h (after E h moves) (accepted E h moves) := by
  induction moves generalizing h with
  | nil => exact queued_nothing rfl rfl rfl
  | cons m moves ih =>
    obtain ⟨first, outside⟩ := List.forall_mem_cons.mp outside
    have now := queued_move E h first
    have later := ih (h.move E m) outside
    exact {
      engine := later.engine.trans now.engine
      phase := later.phase.trans now.phase
      queue := by
        rw [accepted, Run.seen_cons, ← List.append_assoc, ← now.queue]
        exact later.queue }

theorem queued_of_plain (h : Hub σ) {moves : List Move} (plain : ∀ m ∈ moves, m.isPlain) :
    Queued h (after E h moves) (accepted E h moves) := by
  refine h.queued_after E fun m hm drives => ?_
  have := plain m hm
  rw [drives] at this
  cases this

theorem Queued.running {h h' : Hub σ} {more : List Command} (q : Queued h h' more) :
    h'.isRunning = h.isRunning := by
  rw [isRunning, q.phase, isRunning]

theorem accepted_of_plain (h : Hub σ) {moves : List Move} (plain : ∀ m ∈ moves, m.isPlain) :
    ∀ c ∈ accepted E h moves, c.isClose = false := by
  induction moves generalizing h with
  | nil => exact nofun
  | cons m moves ih =>
    obtain ⟨first, plain⟩ := List.forall_mem_cons.mp plain
    intro c hc
    rw [accepted, Run.seen_cons, List.mem_append] at hc
    rcases hc with now | later
    · have sent := Option.mem_toList.mp (List.mem_filter.mp now).1
      cases m with
      | request k bytes | poll k =>
        obtain ⟨s, -, rfl⟩ := Option.map_eq_some_iff.mp sent
        rfl
      | read k | log records => cases sent
      | _ => cases first
    · exact ih _ plain c later

end Hub

end SessionHub
