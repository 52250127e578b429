import SessionHub.Proofs.Hub.Run
import SessionHub.Proofs.Hub.Step

set_option autoImplicit false

/-! # Numbers and mailboxes of sessions

As long as fewer than `2 ^ 32` sessions are opened, and the directory is left to them, each session
has a number and a mailbox of its own, and the directory leads from that number to that mailbox for
exactly as long as the session is open. Commands in the name of a session bear the number of one
that was opened, and if they close a session, then one that is closed already (`Owned`). -/

namespace SessionHub.Hub

variable {σ : Type}

/-! ## Numbers -/

/-- The number of the session that is opened after `k` others. -/
def sessionId (k : Nat) : SessionId :=
  ⟨(k + 1).toUInt32⟩

theorem sessionId_inj {j k : Nat} (hj : j + 1 < UInt32.size) (hk : k + 1 < UInt32.size)
    (same : sessionId j = sessionId k) : j = k := by
  have vals := congrArg (fun id => id.val.toNat) same
  simp only [sessionId, Nat.toUInt32_eq, UInt32.toNat_ofNat', Nat.mod_eq_of_lt hj,
    Nat.mod_eq_of_lt hk] at vals
  omega

/-- Whether session `k` was opened and is not closed. -/
def isOpen (h : Hub σ) (k : Nat) : Bool :=
  h.sessions[k]?.any fun s => !s.closed

theorem lt_of_isOpen {h : Hub σ} {k : Nat} (live : h.isOpen k) : k < h.sessions.size := by
  rw [← Nat.not_le]
  intro outside
  simp [isOpen, Array.getElem?_eq_none outside] at live

theorem isOpen_iff {h : Hub σ} {k : Nat} :
    h.isOpen k ↔ ∃ s, h.sessions[k]? = some s ∧ s.closed = false := by
  unfold isOpen
  cases h.sessions[k]? <;> simp

theorem isOpen_of_modify {h h' : Hub σ} {k : Nat}
    (sessions : h'.sessions = h.sessions.modify k fun s => { s with closed := true }) (j : Nat) :
    h'.isOpen j ↔ h.isOpen j ∧ j ≠ k := by
  unfold isOpen
  rw [sessions, Array.getElem?_modify]
  by_cases hkj : k = j
  · subst hkj
    cases h.sessions[k]? <;> simp
  · simp [hkj, Ne.symm hkj]

theorem isOpen_of_push {h h' : Hub σ} {id : SessionId}
    (sessions : h'.sessions = h.sessions.push { id }) (j : Nat) :
    h'.isOpen j ↔ h.isOpen j ∨ j = h.sessions.size := by
  unfold isOpen
  rw [sessions, Array.getElem?_push]
  split
  · next hj =>
    subst hj
    simp
  · next hj => simp [hj]

/-- Nothing is sent in the name of a session that is not open. -/
theorem sendFor_of_not_open {h : Hub σ} {k : Nat} (past : ¬ h.isOpen k)
    (command : SessionId → Command) : h.sendFor k command = (h, .error .closed) := by
  unfold isOpen at past
  unfold sendFor
  cases hs : h.sessions[k]? with
  | none => rfl
  | some s =>
    have closed : s.closed = true := by simpa [hs] using past
    simp only [closed, if_true]

/-! ## Closing -/

theorem close_of_not_open {h : Hub σ} {k : Nat} (past : ¬ h.isOpen k) : h.close k = h := by
  unfold isOpen at past
  unfold Hub.close
  cases hs : h.sessions[k]? with
  | none => rfl
  | some s =>
    have closed : s.closed = true := by simpa [hs] using past
    simp only [closed, if_true]

/-- An open session is closed by marking it so, striking it off, and sending a command if the driver
    still runs. -/
theorem close_eq {h : Hub σ} {k : Nat} {s : Session} (hs : h.sessions[k]? = some s)
    (live : s.closed = false) :
    ∃ log, h.close k = { h with
      sessions := h.sessions.modify k fun s => { s with closed := true }
      directory := h.directory.remove s.id
      queue := h.queue ++ if h.isRunning then [.close s.id] else []
      log } := by
  simp only [Hub.close, hs, live, Bool.false_eq_true, if_false]
  have same : (({ h with
      sessions := h.sessions.modify k fun s => { s with closed := true } } : Hub σ).strike
        s.id).1.isRunning = h.isRunning := rfl
  by_cases running : h.isRunning
  · simp only [same, running, if_true, send_eq (same.trans running)]
    exact ⟨_, rfl⟩
  · simp only [same, running, Bool.false_eq_true, if_false, List.append_nil]
    exact ⟨_, rfl⟩

/-! ## The order -/

/-- The order among sessions, the directory and the commands that wait. -/
structure Owned (h : Hub σ) : Prop where
  few : h.sessions.size < UInt32.size
  enrolments : h.directory.enrolments = h.sessions.size
  mailboxes : h.mailboxes.size = h.sessions.size
  id : ∀ (k : Nat) (s : Session), h.sessions[k]? = some s → s.id = sessionId k
  /-- The directory has open sessions, each with its mailbox, and no others. -/
  entry : ∀ (id : SessionId) (callback : Callback),
    (id, callback) ∈ h.directory.entries ↔
      ∃ k, h.isOpen k ∧ id = sessionId k ∧ callback = .mailbox k
  asking : ∀ (id : SessionId) (bytes : Bytes), .request id bytes ∈ h.commands →
    ∃ k < h.sessions.size, id = sessionId k
  closing : ∀ id : SessionId, .close id ∈ h.commands →
    ∃ k < h.sessions.size, id = sessionId k ∧ ¬ h.isOpen k

theorem owned_start (engine : σ) (mode : Mode) : ({ engine, mode } : Hub σ).Owned where
  few := by simp
  enrolments := rfl
  mailboxes := rfl
  id := by simp
  entry := by simp [isOpen]
  asking := by simp [commands]
  closing := by simp [commands]

namespace Owned

variable {h : Hub σ}

/-- Sessions that were opened are told apart by their numbers. -/
theorem sessionId_inj (o : h.Owned) {j k : Nat} (hj : j < h.sessions.size)
    (hk : k < h.sessions.size) (same : sessionId j = sessionId k) : j = k := by
  have few := o.few
  exact Hub.sessionId_inj (by omega) (by omega) same

/-- A session is reached by its own mailbox while it is open, and not at all otherwise. -/
theorem callback?_eq_some (o : h.Owned) {id : SessionId} {callback : Callback} :
    h.directory.callback? id = some callback ↔
      ∃ k, h.isOpen k ∧ id = sessionId k ∧ callback = .mailbox k := by
  rw [← o.entry, Directory.callback?]
  constructor
  · intro found
    obtain ⟨l₁, l₂, hs, -⟩ := List.lookup_eq_some_iff.mp found
    rw [hs]
    simp
  · intro hm
    cases found : h.directory.entries.lookup id with
    | none => simpa using List.lookup_eq_none_iff.mp found (id, callback) hm
    | some callback' =>
      obtain ⟨l₁, l₂, hs, -⟩ := List.lookup_eq_some_iff.mp found
      have hm' : (id, callback') ∈ h.directory.entries := by
        rw [hs]
        simp
      obtain ⟨j, hj, hid, rfl⟩ := (o.entry id callback').mp hm'
      obtain ⟨k, hk, hid', rfl⟩ := (o.entry id callback).mp hm
      rw [o.sessionId_inj (lt_of_isOpen hj) (lt_of_isOpen hk) (hid.symm.trans hid')]

/-! ## Moves that leave sessions and the directory alone -/

/-- What matters are sessions, the directory, the number of mailboxes, and the commands that are not
    polls. -/
theorem of_same (o : h.Owned) {h' : Hub σ} (sessions : h'.sessions = h.sessions)
    (directory : h'.directory = h.directory) (mailboxes : h'.mailboxes.size = h.mailboxes.size)
    (commands : ∀ c ∈ h'.commands, c = .poll ∨ c ∈ h.commands) : h'.Owned where
  few := sessions ▸ o.few
  enrolments := by rw [directory, sessions, o.enrolments]
  mailboxes := by rw [mailboxes, sessions, o.mailboxes]
  id := sessions ▸ o.id
  entry := by
    unfold isOpen
    rw [directory, sessions]
    exact o.entry
  asking id bytes hc := by
    rcases commands _ hc with hc | hc
    · cases hc
    · exact sessions ▸ o.asking id bytes hc
  closing id hc := by
    rcases commands _ hc with hc | hc
    · cases hc
    · obtain ⟨k, hk, hid, closed⟩ := o.closing id hc
      refine ⟨k, sessions ▸ hk, hid, ?_⟩
      rw [isOpen, sessions]
      exact closed

theorem drive (o : h.Owned) (E : Engine σ) : (h.step E).Owned := by
  have frame := h.step_frame E
  exact o.of_same frame.sessions frame.directory (h.size_step E) fun _ => mem_commands_of_step E

theorem leaveMailbox (o : h.Owned) (k : Nat) : (h.leaveMailbox k).Owned :=
  o.of_same rfl rfl Array.size_modify fun _ hc => .inr hc

theorem readAll (o : h.Owned) (k : Nat) : (h.readAll k).2.Owned :=
  o.of_same rfl rfl Array.size_modify fun _ hc => .inr hc

theorem read (o : h.Owned) (k : Nat) : (((h.read? k).map (·.2)).getD h).Owned := by
  unfold read?
  split
  · exact o
  · exact o.of_same rfl rfl Array.size_modify fun _ hc => .inr hc

theorem letGo (o : h.Owned) : h.letGo.Owned :=
  o.of_same rfl rfl rfl fun _ hc => .inr hc

/-! ## Commands -/

/-- A command may come in if it is no request and closes nothing, or if it is in the name of a
    session, open or closed, as the case may be. -/
theorem send (o : h.Owned) (c : Command)
    (request : ∀ id bytes, c = .request id bytes → ∃ k < h.sessions.size, id = sessionId k)
    (close : ∀ id, c = .close id → ∃ k < h.sessions.size, id = sessionId k ∧ ¬ h.isOpen k) :
    (h.send c).1.Owned := by
  by_cases running : h.isRunning
  · rw [send_eq running]
    have commands := h.commands_append [c]
    exact { o with
      asking := by
        intro id bytes hc
        rw [commands, List.mem_append, List.mem_singleton] at hc
        exact hc.elim (o.asking id bytes) fun same => request id bytes same.symm
      closing := by
        intro id hc
        rw [commands, List.mem_append, List.mem_singleton] at hc
        exact hc.elim (o.closing id) fun same => close id same.symm }
  · rw [send_of_not_running running]
    exact o.of_same rfl rfl rfl fun _ hc => .inr hc

/-- A session that is open sends in its own name, and one that is not open does not send. -/
theorem sendFor_eq (o : h.Owned) (k : Nat) (command : SessionId → Command) :
    h.sendFor k command =
      if h.isOpen k then h.send (command (sessionId k)) else (h, .error .closed) := by
  split
  · next live =>
    obtain ⟨s, hs, live⟩ := isOpen_iff.mp live
    simp only [sendFor, hs, live, o.id k s hs, Bool.false_eq_true, if_false]
  · next past => exact sendFor_of_not_open past command

theorem request (o : h.Owned) (k : Nat) (bytes : Bytes) : (h.request k bytes).1.Owned := by
  rw [Hub.request, o.sendFor_eq]
  split
  · next live =>
    refine o.send _ (fun id bytes same => ?_) nofun
    cases same
    exact ⟨k, lt_of_isOpen live, rfl⟩
  · exact o

theorem poll (o : h.Owned) (k : Nat) : (h.poll k).1.Owned := by
  rw [Hub.poll, o.sendFor_eq]
  split
  · exact o.send _ nofun nofun
  · exact o

/-! ## Opening and closing -/

theorem isOpen_openMailbox (h : Hub σ) (k : Nat) :
    h.openMailbox.1.isOpen k ↔ h.isOpen k ∨ k = h.sessions.size :=
  @isOpen_of_push _ h h.openMailbox.1 _ rfl k

theorem openMailbox (o : h.Owned) (few : h.sessions.size + 1 < UInt32.size) :
    h.openMailbox.1.Owned := by
  -- only sessions enrol, so that the directory counts as they do
  have number : h.directory.nextId = sessionId h.sessions.size := by
    rw [Directory.nextId, o.enrolments, sessionId]
  have size : h.openMailbox.1.sessions.size = h.sessions.size + 1 := Array.size_push _
  exact {
    few := size ▸ few
    enrolments := by
      rw [size, ← o.enrolments]
      rfl
    mailboxes := by
      rw [size, ← o.mailboxes]
      exact Array.size_push _
    id := by
      intro k s hs
      have hs : (h.sessions.push { id := h.directory.nextId })[k]? = some s := hs
      rw [Array.getElem?_push] at hs
      split at hs
      · next hk =>
        cases hs
        rw [hk, number]
      · exact o.id k s hs
    entry := by
      intro id callback
      have new : h.openMailbox.1.directory.entries =
          (sessionId h.sessions.size, .mailbox h.sessions.size) :: h.directory.entries := by
        show (h.directory.enrol (.mailbox h.mailboxes.size)).entries = _
        rw [Directory.enrol, if_pos (by rw [o.enrolments]; exact o.few), number, o.mailboxes]
      rw [new, List.mem_cons, o.entry]
      simp only [isOpen_openMailbox]
      constructor
      · rintro (same | ⟨k, live, hid, hk⟩)
        · cases same
          exact ⟨_, .inr rfl, rfl, rfl⟩
        · exact ⟨k, .inl live, hid, hk⟩
      · rintro ⟨k, live | rfl, hid, hk⟩
        · exact .inr ⟨k, live, hid, hk⟩
        · exact .inl (by rw [hid, hk])
    asking := by
      intro id bytes hc
      obtain ⟨k, hk, hid⟩ := o.asking id bytes hc
      exact ⟨k, size ▸ Nat.lt_succ_of_lt hk, hid⟩
    closing := by
      intro id hc
      obtain ⟨k, hk, hid, closed⟩ := o.closing id hc
      refine ⟨k, size ▸ Nat.lt_succ_of_lt hk, hid, ?_⟩
      rw [isOpen_openMailbox]
      rintro (live | rfl)
      · exact closed live
      · exact Nat.lt_irrefl _ hk }

/-- An open session of an orderly hub is struck off under its number. -/
theorem close_of_open (o : h.Owned) {k : Nat} (live : h.isOpen k) :
    ∃ log, h.close k = { h with
      sessions := h.sessions.modify k fun s => { s with closed := true }
      directory := h.directory.remove (sessionId k)
      queue := h.queue ++ if h.isRunning then [.close (sessionId k)] else []
      log } := by
  obtain ⟨s, hs, live⟩ := isOpen_iff.mp live
  obtain ⟨log, closed⟩ := close_eq hs live
  rw [o.id k s hs] at closed
  exact ⟨log, closed⟩

theorem isOpen_close (o : h.Owned) (j k : Nat) : (h.close k).isOpen j ↔ h.isOpen j ∧ j ≠ k := by
  by_cases live : h.isOpen k
  · obtain ⟨log, closed⟩ := o.close_of_open live
    exact isOpen_of_modify (by rw [closed]) j
  · rw [close_of_not_open live]
    refine ⟨fun hj => ⟨hj, ?_⟩, And.left⟩
    rintro rfl
    exact live hj

theorem close (o : h.Owned) (k : Nat) : (h.close k).Owned := by
  by_cases live : h.isOpen k
  case neg =>
    rw [close_of_not_open live]
    exact o
  have isOpen := o.isOpen_close (k := k)
  obtain ⟨log, closed⟩ := o.close_of_open live
  have size : (h.close k).sessions.size = h.sessions.size := by
    rw [closed]
    exact Array.size_modify
  have commands : (h.close k).commands =
      h.commands ++ if h.isRunning then [.close (sessionId k)] else [] := by
    rw [closed]
    exact h.commands_append _
  exact {
    few := size ▸ o.few
    enrolments := by
      rw [size, ← o.enrolments, closed]
      rfl
    mailboxes := by
      rw [size, ← o.mailboxes, closed]
    id := by
      intro j s hs
      rw [closed] at hs
      simp only [Array.getElem?_modify] at hs
      split at hs
      · next hkj =>
        subst hkj
        obtain ⟨old, ho, rfl⟩ := Option.map_eq_some_iff.mp hs
        exact o.id k old ho
      · exact o.id j s hs
    entry := by
      intro id callback
      have entries : (h.close k).directory.entries
          = h.directory.entries.filter (·.1 ≠ sessionId k) := by
        rw [closed]
        rfl
      rw [entries, List.mem_filter, o.entry]
      simp only [decide_eq_true_eq, isOpen]
      constructor
      · rintro ⟨⟨j, hj, rfl, hc⟩, other⟩
        exact ⟨j, ⟨hj, fun same => other (same ▸ rfl)⟩, rfl, hc⟩
      · -- what is struck off is the entry of session `k` alone, for numbers are not used twice
        rintro ⟨j, ⟨hj, other⟩, rfl, hc⟩
        refine ⟨⟨j, hj, rfl, hc⟩, fun same => ?_⟩
        exact other (o.sessionId_inj (lt_of_isOpen hj) (lt_of_isOpen live) same)
    asking := by
      intro id bytes hc
      rw [commands, List.mem_append] at hc
      rcases hc with hc | hc
      · rw [size]
        exact o.asking id bytes hc
      · split at hc <;> simp at hc
    closing := by
      intro id hc
      rw [commands, List.mem_append] at hc
      simp only [isOpen, size]
      rcases hc with hc | hc
      · obtain ⟨j, hj, hid, past⟩ := o.closing id hc
        exact ⟨j, hj, hid, fun hj => past hj.1⟩
      · split at hc
        · cases List.mem_singleton.mp hc
          exact ⟨k, lt_of_isOpen live, rfl, fun hk => hk.2 rfl⟩
        · cases hc }

/-! ## Runs -/

/-- A move that goes through sessions keeps the order, and only openings make sessions. -/
theorem move (o : h.Owned) (E : Engine σ) (m : Move) (orderly : m.isOrderly)
    (few : h.sessions.size + (if m.opens then 1 else 0) < UInt32.size) :
    (h.move E m).Owned ∧
      (h.move E m).sessions.size = h.sessions.size + if m.opens then 1 else 0 := by
  have sentFor : ∀ k command, (h.sendFor k command).1.sessions = h.sessions := by
    intro k command
    rw [o.sendFor_eq]
    split
    · exact h.sessions_send _
    · rfl
  have closed : ∀ k, (h.close k).sessions.size = h.sessions.size := by
    intro k
    by_cases live : h.isOpen k
    · obtain ⟨log, closed⟩ := o.close_of_open live
      rw [closed]
      exact Array.size_modify
    · rw [close_of_not_open live]
  cases m with
  | drive => exact ⟨o.drive E, congrArg Array.size (h.step_frame E).sessions⟩
  | command c =>
    refine ⟨o.send c ?_ ?_, congrArg Array.size (h.sessions_send c)⟩
    · rintro id bytes rfl
      cases orderly
    · rintro id rfl
      cases orderly
  | retain => exact ⟨o.of_same rfl rfl rfl fun _ hc => .inr hc, rfl⟩
  | letGo => exact ⟨o.letGo, rfl⟩
  | openMailbox => exact ⟨o.openMailbox few, Array.size_push _⟩
  | request k bytes => exact ⟨o.request k bytes, congrArg Array.size (sentFor _ _)⟩
  | poll k => exact ⟨o.poll k, congrArg Array.size (sentFor _ _)⟩
  | close k => exact ⟨o.close k, closed k⟩
  | drop k => exact ⟨(o.close k).letGo, closed k⟩
  | read k =>
    refine ⟨o.read k, ?_⟩
    simp only [Hub.move, read?]
    split <;> rfl
  | readAll k => exact ⟨o.readAll k, rfl⟩
  | leave k => exact ⟨o.leaveMailbox k, rfl⟩
  | enrol callback => cases orderly
  | strike id => cases orderly
  | beginDelivery id bytes => cases orderly
  | completeDelivery i => cases orderly
  | log records => exact ⟨o.of_same rfl rfl rfl fun _ hc => .inr hc, rfl⟩

end Owned

end SessionHub.Hub
