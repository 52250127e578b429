import SessionHub.Proofs.Hub.Lifecycle

set_option autoImplicit false

/-! # Numbers are given once

Here numbers may be struck off, delivered to, and given to other callbacks from outside. What is
left to sessions are requests and closings, and the mailboxes that they open (`Act.isDiscreet`). As
long as fewer than `2 ^ 32` numbers are given, each session has one of its own all the same
(`Issued`), and once a number was given and no open session bears it, none ever will again (`Gone`).
All of this follows from what a single act can do to sessions, mailboxes and the directory
(`Altered`). -/

namespace SessionHub.Hub

variable {σ : Type}

/-- Whether an act makes no requests and closes no session, except by way of a session, and enrols
    no mailbox but one that it opens. -/
def Act.isDiscreet : Act → Bool
  | move (.command (.request ..)) | move (.command (.close _)) => false
  | move (.enrol (.mailbox _)) | openWith (.mailbox _) => false
  | _ => true

/-- Whether an act gives a number. -/
def Act.enrols : Act → Bool
  | move .openMailbox | move (.enrol _) | openWith _ => true
  | _ => false

/-! ## What one act does -/

/-- What an act takes the sessions, the directory and the mailboxes of `h` to. -/
inductive Altered (h : Hub σ) (a : Act) (h' : Hub σ) : Prop where
  /-- No open session is concerned. -/
  | kept (sessions : h'.sessions = h.sessions) (directory : h'.directory = h.directory)
    (mailboxes : h'.mailboxes.size = h.mailboxes.size)
    (keeps : ∀ k, h.isOpen k → a.closes k = false) (gives : a.enrols = false)
  | closed (k : Nat) (s : Session) (found : h.sessions[k]? = some s) (live : s.closed = false)
    (sessions : h'.sessions = h.sessions.modify k fun s => { s with closed := true })
    (directory : h'.directory = h.directory.remove s.id)
    (mailboxes : h'.mailboxes.size = h.mailboxes.size) (closes : ∀ j, a.closes j = decide (k = j))
    (gives : a.enrols = false)
  /-- A number is struck off from outside. -/
  | struck (id : SessionId) (sessions : h'.sessions = h.sessions)
    (directory : h'.directory = h.directory.remove id)
    (mailboxes : h'.mailboxes.size = h.mailboxes.size) (keeps : ∀ k, a.closes k = false)
    (gives : a.enrols = false) (source : a = .move (.strike id))
  /-- Another callback is enrolled. -/
  | enrolled (e : DeliveryError) (sessions : h'.sessions = h.sessions)
    (directory : h'.directory = h.directory.enrol (.failing e))
    (mailboxes : h'.mailboxes.size = h.mailboxes.size) (keeps : ∀ k, a.closes k = false)
    (gives : a.enrols)
  | opened (callback : Callback)
    (sessions : h'.sessions = h.sessions.push { id := h.directory.nextId })
    (directory : h'.directory = h.directory.enrol callback)
    (mailboxes : h.mailboxes.size ≤ h'.mailboxes.size)
    (place : ∀ m, callback = .mailbox m → m = h.mailboxes.size ∧ m < h'.mailboxes.size)
    (keeps : ∀ k, a.closes k = false) (gives : a.enrols)

/-- A closing marks an open session and strikes it off, and does nothing otherwise. -/
theorem altered_close (h : Hub σ) (k : Nat) {a : Act} (closes : ∀ j, a.closes j = decide (k = j))
    (gives : a.enrols = false) {h' : Hub σ} (sessions : h'.sessions = (h.close k).sessions)
    (directory : h'.directory = (h.close k).directory)
    (mailboxes : h'.mailboxes = (h.close k).mailboxes) : h.Altered a h' := by
  by_cases live : h.isOpen k
  · obtain ⟨s, found, live⟩ := isOpen_iff.mp live
    obtain ⟨log, closed⟩ := close_eq found live
    rw [closed] at sessions directory mailboxes
    exact .closed k s found live sessions directory (by rw [mailboxes]) closes gives
  · rw [close_of_not_open live] at sessions directory mailboxes
    refine .kept sessions directory (by rw [mailboxes]) (fun j hj => ?_) gives
    rw [closes, decide_eq_false_iff_not]
    rintro rfl
    exact live hj

theorem altered_act (E : Engine σ) (h : Hub σ) {a : Act} (discreet : a.isDiscreet) :
    h.Altered a (h.act E a) := by
  have quiet : ∀ m : Move, m.changesRecord = false → h.Altered (.move m) (h.move E m) := by
    intro m other
    have same := sameRecord_move E h other
    refine .kept same.sessions same.directory same.size (fun k _ => ?_) ?_ <;>
      cases m <;> first | rfl | cases other
  cases a with
  | openWith callback =>
    cases callback with
    | mailbox k => cases discreet
    | failing e => exact .opened (.failing e) rfl rfl (Nat.le_refl _) nofun (fun _ => rfl) rfl
  | move m =>
    cases m with
    | openMailbox =>
      have size : h.openMailbox.1.mailboxes.size = h.mailboxes.size + 1 := Array.size_push _
      refine .opened (.mailbox h.mailboxes.size) rfl rfl ?_ ?_ (fun _ => rfl) rfl
      · exact size ▸ Nat.le_succ _
      · intro m same
        cases same
        exact ⟨rfl, Nat.lt_of_lt_of_eq (Nat.lt_succ_self _) size.symm⟩
    | close k => exact h.altered_close k (fun _ => rfl) rfl rfl rfl rfl
    | drop k => exact h.altered_close k (fun _ => rfl) rfl rfl rfl rfl
    | leave k => exact .kept rfl rfl Array.size_modify (fun _ _ => rfl) rfl
    | strike id => exact .struck id rfl rfl rfl (fun _ => rfl) rfl rfl
    | enrol callback =>
      cases callback with
      | mailbox k => cases discreet
      | failing e => exact .enrolled e rfl rfl rfl (fun _ => rfl) rfl
    | drive => exact quiet .drive rfl
    | command c => exact quiet (.command c) rfl
    | retain => exact quiet .retain rfl
    | letGo => exact quiet .letGo rfl
    | request k bytes => exact quiet (.request k bytes) rfl
    | poll k => exact quiet (.poll k) rfl
    | read k => exact quiet (.read k) rfl
    | readAll k => exact quiet (.readAll k) rfl
    | beginDelivery id bytes => exact quiet (.beginDelivery id bytes) rfl
    | completeDelivery i => exact quiet (.completeDelivery i) rfl
    | log records => exact quiet (.log records) rfl

/-- A command that comes in by a discreet act. -/
inductive Sent (h : Hub σ) (a : Act) : Command → Prop where
  | poll : Sent h a .poll
  | shutdown : Sent h a .shutdown
  | request (k : Nat) (s : Session) (bytes : Bytes) (found : h.sessions[k]? = some s)
    (live : s.closed = false) : Sent h a (.request s.id bytes)
  | close (k : Nat) (s : Session) (found : h.sessions[k]? = some s) (live : s.closed = false)
    (closes : a.closes k) : Sent h a (.close s.id)

theorem openSession?_eq_some {h : Hub σ} {k : Nat} {s : Session} :
    h.openSession? k = some s ↔ h.sessions[k]? = some s ∧ s.closed = false := by
  rw [openSession?, Option.filter_eq_some_iff]
  simp

theorem sent_of_accepted {h : Hub σ} {a : Act} (discreet : a.isDiscreet) {c : Command}
    (accepted : c ∈ a.accepted h) : h.Sent a c := by
  cases a with
  | openWith callback => cases accepted
  | move m =>
    have sent : m.sends? h = some c := Option.mem_toList.mp (List.mem_filter.mp accepted).1
    cases m with
    | command c' =>
      cases sent
      cases c with
      | request id bytes => cases discreet
      | close id => cases discreet
      | poll => exact .poll
      | shutdown => exact .shutdown
    | request k bytes =>
      obtain ⟨s, found, rfl⟩ := Option.map_eq_some_iff.mp sent
      obtain ⟨found, live⟩ := openSession?_eq_some.mp found
      exact .request k s bytes found live
    | poll k =>
      obtain ⟨s, -, rfl⟩ := Option.map_eq_some_iff.mp sent
      exact .poll
    | close k | drop k =>
      obtain ⟨s, found, rfl⟩ := Option.map_eq_some_iff.mp sent
      obtain ⟨found, live⟩ := openSession?_eq_some.mp found
      exact .close k s found live (decide_eq_true rfl)
    | _ => cases sent

/-- At most one command comes in by an act. -/
theorem accepted_cases (h : Hub σ) (a : Act) : a.accepted h = [] ∨ ∃ c, a.accepted h = [c] := by
  cases a with
  | openWith callback => exact .inl rfl
  | move m =>
    show m.accepted h = [] ∨ ∃ c, m.accepted h = [c]
    rw [accepted_eq]
    cases h.isRunning with
    | false => exact .inl rfl
    | true =>
      cases m.sends? h with
      | none => exact .inl rfl
      | some c => exact .inr ⟨c, rfl⟩

/-- What is not the driver's only adds to the queue what is accepted. -/
theorem queued_act (E : Engine σ) (h : Hub σ) {a : Act} (outside : a ≠ .move .drive) :
    Queued h (h.act E a) (a.accepted h) := by
  cases a with
  | openWith callback => exact queued_nothing rfl rfl rfl
  | move m => exact queued_move E h fun same => outside (same ▸ rfl)

/-! ## Numbers -/

/-- Whether the numbers of sessions were given, and no two sessions have the same. -/
structure Issued (h : Hub σ) : Prop where
  given : ∀ (k : Nat) (s : Session), h.sessions[k]? = some s →
    s.id.val.toNat ≤ h.directory.enrolments
  distinct : ∀ (j k : Nat) (s t : Session), h.sessions[j]? = some s → h.sessions[k]? = some t →
    s.id = t.id → j = k

/-- Whether a number was given and no open session bears it. -/
structure Gone (h : Hub σ) (id : SessionId) : Prop where
  given : id.val.toNat ≤ h.directory.enrolments
  closed : ∀ (k : Nat) (s : Session), h.sessions[k]? = some s → s.id = id → s.closed

/-- In the name of a number that is gone nothing is sent. -/
theorem Gone.ne_of_sent {h : Hub σ} {id : SessionId} (g : h.Gone id) {a : Act} {c : Command}
    (sent : h.Sent a c) : (∀ bytes, c ≠ .request id bytes) ∧ c ≠ .close id := by
  have other (k : Nat) (s : Session) (found : h.sessions[k]? = some s) (live : s.closed = false) :
      s.id ≠ id := by
    intro same
    rw [g.closed k s found same] at live
    cases live
  cases sent with
  | poll => exact ⟨nofun, nofun⟩
  | shutdown => exact ⟨nofun, nofun⟩
  | request k s bytes found live =>
    refine ⟨fun bytes same => other k s found live ?_, nofun⟩
    cases same
    rfl
  | close k s found live closes =>
    refine ⟨nofun, fun same => other k s found live ?_⟩
    cases same
    rfl

namespace Altered

variable {h h' : Hub σ} {a : Act}

theorem enrolments_eq (d : h.Altered a h') :
    h'.directory.enrolments = h.directory.enrolments + if a.enrols then 1 else 0 := by
  cases d with
  | kept sessions directory mailboxes keeps gives => simp [directory, gives]
  | closed k s found live sessions directory mailboxes closes gives =>
    simp [directory, gives, Directory.remove]
  | struck id sessions directory mailboxes keeps gives => simp [directory, gives, Directory.remove]
  | enrolled e sessions directory mailboxes keeps gives => simp [directory, gives, Directory.enrol]
  | opened callback sessions directory mailboxes place keeps gives =>
    simp [directory, gives, Directory.enrol]

theorem size_le (d : h.Altered a h') : h.mailboxes.size ≤ h'.mailboxes.size := by
  cases d with
  | kept sessions directory mailboxes => exact Nat.le_of_eq mailboxes.symm
  | closed k s found live sessions directory mailboxes => exact Nat.le_of_eq mailboxes.symm
  | struck id sessions directory mailboxes => exact Nat.le_of_eq mailboxes.symm
  | enrolled e sessions directory mailboxes => exact Nat.le_of_eq mailboxes.symm
  | opened callback sessions directory mailboxes => exact mailboxes

/-- A session stays, and stays closed, or is closed now. -/
theorem session_next (d : h.Altered a h') {k : Nat} {s : Session}
    (found : h.sessions[k]? = some s) :
    h'.sessions[k]? = some { s with closed := s.closed || a.closes k } := by
  have same : h'.sessions = h.sessions → (h.isOpen k → a.closes k = false) →
      h'.sessions[k]? = some { s with closed := s.closed || a.closes k } := by
    intro sessions keeps
    rw [sessions, found]
    cases past : s.closed with
    | true => rw [Bool.true_or, ← past]
    | false => rw [keeps (isOpen_iff.mpr ⟨s, found, past⟩), Bool.or_false, ← past]
  cases d with
  | kept sessions directory mailboxes keeps => exact same sessions (keeps k)
  | struck id sessions directory mailboxes keeps => exact same sessions fun _ => keeps k
  | enrolled e sessions directory mailboxes keeps => exact same sessions fun _ => keeps k
  | closed j t there live sessions directory mailboxes closes =>
    rw [sessions, Array.getElem?_modify, closes, found]
    by_cases here : j = k <;> simp [here]
  | opened callback sessions directory mailboxes place keeps =>
    have inside := (Array.getElem?_eq_some_iff.mp found).1
    rw [sessions, Array.getElem?_push, if_neg (Nat.ne_of_lt inside), found, keeps, Bool.or_false]

/-- A session was there before, or it is new and has the number that the directory gives next. -/
theorem session_cases (d : h.Altered a h') {k : Nat} {s : Session}
    (found : h'.sessions[k]? = some s) :
    (∃ old, h.sessions[k]? = some old ∧ s = { old with closed := old.closed || a.closes k }) ∨
    k = h.sessions.size ∧ s.id = h.directory.nextId ∧ a.enrols := by
  cases before : h.sessions[k]? with
  | some old =>
    refine .inl ⟨old, rfl, ?_⟩
    rw [d.session_next before] at found
    exact (Option.some.inj found).symm
  | none =>
    right
    cases d with
    | kept sessions => rw [sessions, before] at found; cases found
    | struck id sessions => rw [sessions, before] at found; cases found
    | enrolled e sessions => rw [sessions, before] at found; cases found
    | closed j t there live sessions =>
      rw [sessions, Array.getElem?_modify, before] at found
      split at found <;> cases found
    | opened callback sessions directory mailboxes place keeps gives =>
      rw [sessions, Array.getElem?_push, before] at found
      split at found
      · next last =>
        cases found
        exact ⟨last, rfl, gives⟩
      · cases found

theorem gone (d : h.Altered a h') (few : h'.directory.enrolments < Directory.numbers)
    {id : SessionId} (g : h.Gone id) : h'.Gone id where
  given := by
    rw [d.enrolments_eq]
    exact Nat.le_add_right_of_le g.given
  closed k s found same := by
    rcases d.session_cases found with ⟨old, before, rfl⟩ | ⟨-, number, gives⟩
    · rw [g.closed k old before same]
      rfl
    · -- the number that is given now is greater than those that were given before
      have given := g.given
      rw [d.enrolments_eq, if_pos gives] at few
      rw [← same, number, Directory.toNat_nextId few] at given
      exact absurd given (Nat.not_succ_le_self _)

theorem issued (d : h.Altered a h') (few : h'.directory.enrolments < Directory.numbers)
    (i : h.Issued) : h'.Issued where
  given k s found := by
    rcases d.session_cases found with ⟨old, before, rfl⟩ | ⟨-, number, gives⟩
    · rw [d.enrolments_eq]
      exact Nat.le_add_right_of_le (i.given k old before)
    · rw [d.enrolments_eq, if_pos gives] at few ⊢
      exact Nat.le_of_eq ((congrArg (·.val.toNat) number).trans (Directory.toNat_nextId few))
  distinct j k s t found found' same := by
    have fresh (k : Nat) (s : Session) (before : h.sessions[k]? = some s) (gives : a.enrols) :
        s.id ≠ h.directory.nextId := by
      intro same
      have given := i.given k s before
      rw [d.enrolments_eq, if_pos gives] at few
      rw [same, Directory.toNat_nextId few] at given
      exact Nat.not_succ_le_self _ given
    rcases d.session_cases found with ⟨s', before, rfl⟩ | ⟨last, number, gives⟩ <;>
      rcases d.session_cases found' with ⟨t', before', rfl⟩ | ⟨last', number', gives'⟩
    · exact i.distinct j k s' t' before before' same
    · exact absurd (same.trans number') (fresh j s' before gives')
    · exact absurd (same.symm.trans number) (fresh k t' before' gives)
    · rw [last, last']

/-- A session that is reached by a mailbox was so before and is not closed now, or opens the
    mailbox. -/
theorem entry_cases (d : h.Altered a h') {id : SessionId} {m : Nat}
    (found : h'.directory.callback? id = some (.mailbox m)) :
    h.directory.callback? id = some (.mailbox m) ∧
      (∀ (k : Nat) (s : Session), h.sessions[k]? = some s → s.id = id → a.closes k → s.closed) ∨
    m = h.mailboxes.size ∧ m < h'.mailboxes.size := by
  cases d with
  | kept sessions directory mailboxes keeps =>
    refine .inl ⟨directory ▸ found, fun k s there _ closes => ?_⟩
    rw [← Bool.not_eq_false]
    intro live
    rw [keeps k (isOpen_iff.mpr ⟨s, there, live⟩)] at closes
    cases closes
  | closed j t there live sessions directory mailboxes closes =>
    rw [directory, Directory.callback?_remove] at found
    split at found
    · cases found
    · next other =>
      refine .inl ⟨found, fun k s there' same now => ?_⟩
      rw [closes, decide_eq_true_eq] at now
      subst now
      rw [there] at there'
      cases there'
      exact absurd same.symm other
  | struck id' sessions directory mailboxes keeps =>
    rw [directory, Directory.callback?_remove] at found
    split at found
    · cases found
    · exact .inl ⟨found, fun k s _ _ now => by rw [keeps] at now; cases now⟩
  | enrolled e sessions directory mailboxes keeps =>
    rw [directory, Directory.callback?_enrol] at found
    split at found
    · cases found
    · exact .inl ⟨found, fun k s _ _ now => by rw [keeps] at now; cases now⟩
  | opened callback sessions directory mailboxes place keeps =>
    rw [directory, Directory.callback?_enrol] at found
    split at found
    · exact .inr (place m (Option.some.inj found))
    · exact .inl ⟨found, fun k s _ _ now => by rw [keeps] at now; cases now⟩

end Altered

end SessionHub.Hub
