import SessionHub.Proofs.Hub.Register

set_option autoImplicit false

/-! # The life of a session

A session is in the directory from its opening until it is closed, in whatever way it is reached. In
the stream of commands it leaves requests, and then one closing if the driver still runs when it is
closed (`life_of_sessions`). All of this follows from what a single act can do to sessions, the
directory and the stream together (`Dealing`). -/

namespace SessionHub

/-- Whether a command is a request or a closing in the name of a session. -/
def Command.isOf (id : SessionId) : Command → Bool
  | .request session _ | .close session => session = id
  | _ => false

/-- The requests and closings in the name of a session. -/
def Command.ofSession (id : SessionId) (cs : List Command) : List Command :=
  cs.filter (isOf id)

@[simp] theorem Command.ofSession_append (id : SessionId) (cs more : List Command) :
    ofSession id (cs ++ more) = ofSession id cs ++ ofSession id more :=
  List.filter_append ..

/-- The closings of a session can be counted in what it leaves in the stream. -/
theorem Command.count_close {id : SessionId} {cs closings : List Command} {requests : List Bytes}
    (stream : ofSession id cs = requests.map (.request id) ++ closings) :
    cs.count (.close id) = closings.count (.close id) := by
  have counted : cs.count (.close id) = (ofSession id cs).count (.close id) :=
    (List.count_filter (by simp [isOf])).symm
  have no_closing : (requests.map (request id)).count (.close id) = 0 :=
    List.count_eq_zero.mpr (by simp)
  rw [counted, stream, List.count_append, no_closing, Nat.zero_add]

namespace Hub

variable {σ : Type}

/-! ## Acts -/

/-- What can be done to a hub whose sessions may be reached in any way. -/
inductive Act where
  | move (m : Move)
  | openWith (callback : Callback)

/-- Whether an act makes no requests, closes no session and does not touch the directory, except by
    way of a session. -/
def Act.isOrderly : Act → Bool
  | move m => m.isOrderly
  | openWith _ => true

/-- Whether an act opens a session. -/
def Act.opens : Act → Bool
  | move m => m.opens
  | openWith _ => true

/-- Whether an act closes session `k`, or drops it. -/
def Act.closes (k : Nat) : Act → Bool
  | move (.close j) | move (.drop j) => j = k
  | _ => false

/-- The command that an act sends with success. -/
def Act.accepted (h : Hub σ) : Act → List Command
  | move m => m.accepted h
  | openWith _ => []

/-- The hub after an act. -/
def act (E : Engine σ) (h : Hub σ) : Act → Hub σ
  | .move m => h.move E m
  | .openWith callback => (h.openWith callback).1

/-- The hub after some acts. -/
def afterActs (E : Engine σ) (h : Hub σ) (acts : List Act) : Hub σ :=
  Run.after (act E) h acts

/-- The commands that were accepted in some acts, in order. -/
def acceptedIn (E : Engine σ) (h : Hub σ) (acts : List Act) : List Command :=
  Run.seen (act E) (fun h a => a.accepted h) h acts

/-! ## What one act does -/

/-- Whether sessions have the numbers that they got in the order of opening, and the directory has
    those of open sessions and no others. -/
structure Registered (h : Hub σ) : Prop where
  enrolments : h.directory.enrolments = h.sessions.size
  id : ∀ (k : Nat) (s : Session), h.sessions[k]? = some s → s.id = sessionId k
  listed : ∀ id : SessionId, h.directory.contains id ↔ ∃ k, h.isOpen k ∧ id = sessionId k

/-- What an act takes `h` to, and the commands that are accepted in it. -/
inductive Dealing (h : Hub σ) (a : Act) (h' : Hub σ) (more : List Command) : Prop where
  /-- No open session is concerned. -/
  | other (sessions : h'.sessions = h.sessions) (directory : h'.directory = h.directory)
    (unrelated : ∀ c ∈ more, ∀ id, c.isOf id = false) (keeps : ∀ j, h.isOpen j → a.closes j = false)
    (opens : a.opens = false)
  | asked (k : Nat) (bytes : Bytes) (live : h.isOpen k) (sessions : h'.sessions = h.sessions)
    (directory : h'.directory = h.directory) (commands : more = [.request (sessionId k) bytes])
    (keeps : ∀ j, a.closes j = false) (opens : a.opens = false)
  | closed (k : Nat) (live : h.isOpen k)
    (sessions : h'.sessions = h.sessions.modify k fun s => { s with closed := true })
    (directory : h'.directory = h.directory.remove (sessionId k))
    (commands : more = if h.isRunning then [.close (sessionId k)] else [])
    (closes : ∀ j, a.closes j = decide (k = j)) (opens : a.opens = false)
  | opened (callback : Callback)
    (sessions : h'.sessions = h.sessions.push { id := sessionId h.sessions.size })
    (directory : h'.directory = h.directory.enrol callback) (commands : more = [])
    (keeps : ∀ j, a.closes j = false) (opens : a.opens)

theorem openSession?_of_not_open {h : Hub σ} {k : Nat} (past : ¬ h.isOpen k) :
    h.openSession? k = none := by
  unfold isOpen at past
  unfold openSession?
  cases found : h.sessions[k]? with
  | none => rfl
  | some s =>
    have closed : s.closed = true := by simpa [found] using past
    simp [Option.filter_some, closed]

namespace Registered

variable {h : Hub σ}

theorem of_same (r : h.Registered) {h' : Hub σ} (sessions : h'.sessions = h.sessions)
    (directory : h'.directory = h.directory) : h'.Registered where
  enrolments := by rw [directory, sessions, r.enrolments]
  id := sessions ▸ r.id
  listed := by
    simp only [isOpen, directory, sessions]
    exact r.listed

theorem of_closed (r : h.Registered) (few : h.sessions.size < UInt32.size) {k : Nat}
    (hk : k < h.sessions.size) {h' : Hub σ}
    (sessions : h'.sessions = h.sessions.modify k fun s => { s with closed := true })
    (directory : h'.directory = h.directory.remove (sessionId k)) : h'.Registered where
  enrolments := by
    rw [directory, sessions, Array.size_modify, ← r.enrolments]
    rfl
  id := by
    intro j s hs
    rw [sessions, Array.getElem?_modify] at hs
    split at hs
    · next hkj =>
      subst hkj
      obtain ⟨old, ho, rfl⟩ := Option.map_eq_some_iff.mp hs
      exact r.id k old ho
    · exact r.id j s hs
  listed := by
    intro id
    rw [directory, Directory.contains_remove, r.listed]
    simp only [isOpen_of_modify sessions]
    constructor
    · rintro ⟨other, j, live, rfl⟩
      exact ⟨j, ⟨live, fun same => other (same ▸ rfl)⟩, rfl⟩
    · rintro ⟨j, ⟨live, other⟩, rfl⟩
      have hj := lt_of_isOpen live
      exact ⟨fun same => other (sessionId_inj (by omega) (by omega) same), j, live, rfl⟩

/-- The number that the directory gives to the next one is that of the next session. -/
theorem nextId (r : h.Registered) : h.directory.nextId = sessionId h.sessions.size := by
  rw [Directory.nextId, r.enrolments, sessionId]

theorem of_opened (r : h.Registered) {h' : Hub σ} {callback : Callback}
    (sessions : h'.sessions = h.sessions.push { id := sessionId h.sessions.size })
    (directory : h'.directory = h.directory.enrol callback) : h'.Registered where
  enrolments := by
    rw [directory, sessions, Array.size_push, ← r.enrolments]
    rfl
  id := by
    intro j s hs
    rw [sessions, Array.getElem?_push] at hs
    split at hs
    · next hj =>
      cases hs
      rw [hj]
    · exact r.id j s hs
  listed := by
    intro id
    rw [directory, Directory.contains_enrol, r.nextId, r.listed]
    simp only [isOpen_of_push sessions]
    constructor
    · rintro (rfl | ⟨j, live, rfl⟩)
      · exact ⟨_, .inr rfl, rfl⟩
      · exact ⟨j, .inl live, rfl⟩
    · rintro ⟨j, live | rfl, rfl⟩
      · exact .inr ⟨j, live, rfl⟩
      · exact .inl rfl

/-- What is sent in the name of an open session bears its number. -/
theorem sent_of_open (r : h.Registered) {k : Nat} (live : h.isOpen k)
    (command : SessionId → Command) :
    (h.openSession? k).map (fun s => command s.id) = some (command (sessionId k)) := by
  obtain ⟨s, found, live⟩ := isOpen_iff.mp live
  rw [openSession?_of_open found (by simp [live]), Option.map_some, r.id k s found]

/-- A closing strikes an open session off and sends its number, and does nothing otherwise. -/
theorem dealing_close (r : h.Registered) (k : Nat) {a : Act}
    (closes : ∀ j, a.closes j = decide (k = j)) (opens : a.opens = false) {h' : Hub σ}
    (sessions : h'.sessions = (h.close k).sessions)
    (directory : h'.directory = (h.close k).directory) :
    h.Dealing a h' ((Move.close k).accepted h) := by
  rw [accepted_eq]
  by_cases live : h.isOpen k
  · have sent : (Move.close k).sends? h = _ := r.sent_of_open live .close
    obtain ⟨s, found, live'⟩ := isOpen_iff.mp live
    obtain ⟨log, closed⟩ := close_eq found live'
    rw [closed, r.id k s found] at sessions directory
    rw [sent]
    exact .closed k live sessions directory rfl closes opens
  · have sent : (Move.close k).sends? h = none :=
      congrArg (Option.map _) (openSession?_of_not_open live)
    rw [close_of_not_open live] at sessions directory
    rw [sent]
    refine .other sessions directory (by simp) (fun j hj => ?_) opens
    rw [closes, decide_eq_false_iff_not]
    rintro rfl
    exact live hj

/-- A request is accepted if its session is open and the driver has not stopped. -/
theorem dealing_request (r : h.Registered) (k : Nat) (bytes : Bytes) :
    h.Dealing (.move (.request k bytes)) (h.request k bytes).1
      ((Move.request k bytes).accepted h) := by
  have same := h.sameRecord_sendFor k (.request · bytes)
  have nothing : h.Dealing (.move (.request k bytes)) (h.request k bytes).1 [] :=
    .other same.sessions same.directory nofun (fun _ _ => rfl) rfl
  rw [accepted_eq]
  by_cases running : h.isRunning
  · rw [if_pos running]
    by_cases live : h.isOpen k
    · have sent : (Move.request k bytes).sends? h = _ := r.sent_of_open live (.request · bytes)
      rw [sent]
      exact .asked k bytes live same.sessions same.directory rfl (fun _ => rfl) rfl
    · have sent : (Move.request k bytes).sends? h = none :=
        congrArg (Option.map _) (openSession?_of_not_open live)
      rw [sent]
      exact nothing
  · rw [if_neg running]
    exact nothing

theorem dealing_act (r : h.Registered) (E : Engine σ) (a : Act) (orderly : a.isOrderly) :
    h.Dealing a (h.act E a) (a.accepted h) := by
  have number := r.nextId
  -- moves that leave the record alone and send nothing but polls and orders to stop
  have quiet : ∀ m : Move, m.changesRecord = false →
      (∀ c ∈ m.sends? h, ∀ id, c.isOf id = false) →
      h.Dealing (.move m) (h.move E m) (m.accepted h) := by
    intro m other unrelated
    have same := sameRecord_move E h other
    refine .other same.sessions same.directory (fun c hc => unrelated c ?_) (fun j _ => ?_) ?_
    · exact Option.mem_toList.mp (List.mem_filter.mp hc).1
    · cases m <;> first | rfl | cases other
    · cases m <;> first | rfl | cases other
  cases a with
  | openWith callback =>
    exact .opened callback (by rw [← number]; rfl) rfl rfl (fun _ => rfl) rfl
  | move m =>
    cases m with
    | openMailbox =>
      exact .opened (.mailbox h.mailboxes.size) (by rw [← number]; rfl) rfl rfl (fun _ => rfl) rfl
    | request k bytes => exact r.dealing_request k bytes
    | close k => exact r.dealing_close k (fun _ => rfl) rfl rfl rfl
    | drop k => exact r.dealing_close k (fun _ => rfl) rfl rfl rfl
    | command c =>
      refine quiet (.command c) rfl fun c' sent => ?_
      cases sent
      cases c <;> first | exact fun _ => rfl | cases orderly
    | poll k =>
      refine quiet (.poll k) rfl fun c sent => ?_
      obtain ⟨s, -, rfl⟩ := Option.map_eq_some_iff.mp sent
      exact fun _ => rfl
    | leave k => exact .other rfl rfl nofun (fun _ _ => rfl) rfl
    | drive => exact quiet .drive rfl nofun
    | retain => exact quiet .retain rfl nofun
    | letGo => exact quiet .letGo rfl nofun
    | read k => exact quiet (.read k) rfl nofun
    | readAll k => exact quiet (.readAll k) rfl nofun
    | log records => exact quiet (.log records) rfl nofun
    | enrol callback => cases orderly
    | strike id => cases orderly
    | beginDelivery id bytes => cases orderly
    | completeDelivery i => cases orderly

end Registered

/-! ## What it means for one session -/

namespace Dealing

variable {h h' : Hub σ} {a : Act} {more : List Command}

theorem size_eq (d : h.Dealing a h' more) :
    h'.sessions.size = h.sessions.size + if a.opens then 1 else 0 := by
  cases d with
  | other sessions directory unrelated keeps opens => simp [sessions, opens]
  | asked k bytes live sessions directory commands keeps opens => simp [sessions, opens]
  | closed k live sessions directory commands closes opens => simp [sessions, opens]
  | opened callback sessions directory commands keeps opens => simp [sessions, opens]

/-- Sessions that are open were open before and are not closed now, or are opened now. -/
theorem isOpen_iff (d : h.Dealing a h' more) (j : Nat) :
    h'.isOpen j ↔ h.isOpen j ∧ a.closes j = false ∨ a.opens ∧ j = h.sessions.size := by
  cases d with
  | other sessions directory unrelated keeps opens =>
    have same : h'.isOpen j ↔ h.isOpen j := by rw [isOpen, sessions, isOpen]
    rw [same]
    simpa [opens] using keeps j
  | asked k bytes live sessions directory commands keeps opens =>
    have same : h'.isOpen j ↔ h.isOpen j := by rw [isOpen, sessions, isOpen]
    rw [same]
    simp [keeps j, opens]
  | closed k live sessions directory commands closes opens =>
    rw [isOpen_of_modify sessions]
    simp [closes j, opens, eq_comm (a := j)]
  | opened callback sessions directory commands keeps opens =>
    rw [isOpen_of_push sessions]
    simp [keeps j, opens]

/-- The registration of a session that was opened changes only if the session is closed. -/
theorem callback?_eq (d : h.Dealing a h' more) (r : h.Registered)
    (few : h'.sessions.size < UInt32.size)
    {j : Nat} (hj : j < h.sessions.size) (keeps : a.closes j = false) :
    h'.directory.callback? (sessionId j) = h.directory.callback? (sessionId j) := by
  cases d with
  | other sessions directory => rw [directory]
  | asked k bytes live sessions directory => rw [directory]
  | closed k live sessions directory commands closes =>
    have few : h.sessions.size < UInt32.size := by simpa [sessions] using few
    have hk := lt_of_isOpen live
    have other : sessionId j ≠ sessionId k := by
      intro same
      have here : k = j := sessionId_inj (by omega) (by omega) same.symm
      rw [closes, here] at keeps
      simp at keeps
    rw [directory, Directory.callback?_remove, if_neg other]
  | opened callback sessions directory =>
    have few : h.sessions.size + 1 < UInt32.size := by simpa [sessions] using few
    have other : sessionId j ≠ h.directory.nextId := by
      intro same
      have here : j = h.sessions.size := by
        exact sessionId_inj (by omega) few (same.trans r.nextId)
      omega
    rw [directory, Directory.callback?_enrol, if_neg other]

theorem registered (d : h.Dealing a h' more) (r : h.Registered)
    (few : h'.sessions.size < UInt32.size) :
    h'.Registered := by
  cases d with
  | other sessions directory => exact r.of_same sessions directory
  | asked k bytes live sessions directory => exact r.of_same sessions directory
  | closed k live sessions directory =>
    exact r.of_closed (by simpa [sessions] using few) (lt_of_isOpen live) sessions directory
  | opened callback sessions directory =>
    exact r.of_opened sessions directory

/-- Nothing is accepted in the name of a session that is not open. -/
theorem ofSession_of_foreign (d : h.Dealing a h' more) {id : SessionId}
    (foreign : ∀ j, h.isOpen j → id ≠ sessionId j) : Command.ofSession id more = [] := by
  cases d with
  | other sessions directory untagged =>
    exact List.filter_eq_nil_iff.mpr fun c hc => by simp [untagged c hc id]
  | asked k bytes live sessions directory commands =>
    rw [commands]
    exact List.filter_cons_of_neg (by simpa [Command.isOf] using (foreign k live).symm)
  | closed k live sessions directory commands =>
    rw [commands]
    split
    · exact List.filter_cons_of_neg (by simpa [Command.isOf] using (foreign k live).symm)
    · rfl
  | opened callback sessions directory commands =>
    rw [commands]
    rfl

/-- In the name of an open session that is not closed, nothing is accepted but requests. -/
theorem ofSession_of_kept (d : h.Dealing a h' more) (few : h.sessions.size < UInt32.size) {j : Nat}
    (live : h.isOpen j) (keeps : a.closes j = false) :
    ∃ requests : List Bytes,
      Command.ofSession (sessionId j) more = requests.map (.request (sessionId j)) := by
  cases d with
  | other sessions directory unrelated =>
    exact ⟨[], List.filter_eq_nil_iff.mpr fun c hc => by simp [unrelated c hc]⟩
  | asked k bytes live' sessions directory commands =>
    rw [commands]
    by_cases same : sessionId k = sessionId j
    · rw [same]
      exact ⟨[bytes], List.filter_cons_of_pos (by simp [Command.isOf])⟩
    · exact ⟨[], List.filter_cons_of_neg (by simp [Command.isOf, same])⟩
  | closed k live' sessions directory commands closes =>
    have hk := lt_of_isOpen live'
    have hj := lt_of_isOpen live
    have other : sessionId k ≠ sessionId j := by
      intro same
      rw [closes, sessionId_inj (by omega) (by omega) same] at keeps
      simp at keeps
    rw [commands]
    split
    · exact ⟨[], List.filter_cons_of_neg (by simp [Command.isOf, other])⟩
    · exact ⟨[], rfl⟩
  | opened callback sessions directory commands =>
    rw [commands]
    exact ⟨[], rfl⟩

/-- When an open session is closed, a closing is accepted if the driver still runs. -/
theorem ofSession_of_closed (d : h.Dealing a h' more) {j : Nat} (live : h.isOpen j)
    (closes : a.closes j) : Command.ofSession (sessionId j) more =
      if h.isRunning then [.close (sessionId j)] else [] := by
  cases d with
  | other sessions directory unrelated keeps =>
    rw [keeps j live] at closes
    cases closes
  | asked k bytes live' sessions directory commands keeps =>
    rw [keeps j] at closes
    cases closes
  | closed k live' sessions directory commands closes' =>
    obtain rfl : k = j := by simpa [closes'] using closes
    rw [commands]
    split
    · exact List.filter_cons_of_pos (by simp [Command.isOf])
    · rfl
  | opened callback sessions directory commands keeps =>
    rw [keeps j] at closes
    cases closes

end Dealing

/-! ## The stream of commands -/

/-- How the commands that were accepted and the sessions of a hub stand to each other. -/
structure Lives (h : Hub σ) (accepted : List Command) : Prop where
  few : h.sessions.size < UInt32.size
  registered : h.Registered
  fresh : ∀ id, (∀ k < h.sessions.size, id ≠ sessionId k) → Command.ofSession id accepted = []
  /-- An open session has made nothing but requests. -/
  asking : ∀ k, h.isOpen k → ∃ requests : List Bytes,
    Command.ofSession (sessionId k) accepted = requests.map (.request (sessionId k))
  whole : ∀ id, ∃ (requests : List Bytes) (closings : List Command),
    Command.ofSession id accepted = requests.map (.request id) ++ closings ∧
    (closings = [] ∨ closings = [.close id])

theorem lives_start (s : σ) (mode : Mode) : ({ engine := s, mode } : Hub σ).Lives [] where
  few := by simp
  registered := {
    enrolments := rfl
    id := by simp
    listed := by simp [Directory.contains, Directory.callback?, isOpen] }
  fresh _ _ := rfl
  asking _ _ := ⟨[], rfl⟩
  whole _ := ⟨[], [], rfl, .inl rfl⟩

namespace Lives

variable {h h' : Hub σ} {a : Act} {accepted more : List Command}

theorem act (v : h.Lives accepted) (d : h.Dealing a h' more)
    (few : h'.sessions.size < UInt32.size) :
    h'.Lives (accepted ++ more) where
  few
  registered := d.registered v.registered few
  fresh id unknown := by
    have size := d.size_eq
    have earlier : ∀ k < h.sessions.size, id ≠ sessionId k :=
      fun k hk => unknown k (Nat.lt_of_lt_of_le hk (size ▸ Nat.le_add_right _ _))
    rw [Command.ofSession_append, v.fresh id earlier,
      d.ofSession_of_foreign fun k live => earlier k (lt_of_isOpen live)]
    rfl
  asking k live := by
    rw [Command.ofSession_append]
    rcases (d.isOpen_iff k).mp live with ⟨live, keeps⟩ | ⟨opens, rfl⟩
    · obtain ⟨requests, before⟩ := v.asking k live
      obtain ⟨requests', now⟩ := d.ofSession_of_kept v.few live keeps
      exact ⟨requests ++ requests', by rw [before, now, List.map_append]⟩
    · -- the number of a session that is opened now was not given before
      have size : h'.sessions.size = h.sessions.size + 1 := by rw [d.size_eq, if_pos opens]
      have unknown : ∀ k < h.sessions.size, sessionId h.sessions.size ≠ sessionId k := by
        intro k hk same
        have here := sessionId_inj (by omega) (by omega) same
        omega
      rw [v.fresh _ unknown, d.ofSession_of_foreign fun k live => unknown k (lt_of_isOpen live)]
      exact ⟨[], rfl⟩
  whole id := by
    rw [Command.ofSession_append]
    by_cases owned : ∃ k, h.isOpen k ∧ id = sessionId k
    · obtain ⟨k, live, rfl⟩ := owned
      obtain ⟨requests, before⟩ := v.asking k live
      cases closes : a.closes k with
      | false =>
        obtain ⟨requests', now⟩ := d.ofSession_of_kept v.few live closes
        exact ⟨requests ++ requests', [], by rw [before, now]; simp, .inl rfl⟩
      | true =>
        rw [before, d.ofSession_of_closed live closes]
        refine ⟨requests, _, rfl, ?_⟩
        cases h.isRunning <;> simp
    · have foreign : ∀ k, h.isOpen k → id ≠ sessionId k := fun k live same => owned ⟨k, live, same⟩
      rw [d.ofSession_of_foreign foreign, List.append_nil]
      exact v.whole id

variable (E : Engine σ)

/-- Any number of acts. -/
theorem acts (v : h.Lives accepted) (acts : List Act) (orderly : ∀ a ∈ acts, a.isOrderly)
    (few : h.sessions.size + acts.countP Act.opens < UInt32.size) :
    (afterActs E h acts).Lives (accepted ++ acceptedIn E h acts) ∧
    (afterActs E h acts).sessions.size = h.sessions.size + acts.countP Act.opens := by
  induction acts generalizing h accepted with
  | nil =>
    rw [show acceptedIn E h [] = [] from rfl, List.append_nil]
    exact ⟨v, rfl⟩
  | cons a acts ih =>
    obtain ⟨first, orderly⟩ := List.forall_mem_cons.mp orderly
    have d := v.registered.dealing_act E a first
    rw [List.countP_cons] at few ⊢
    have size := d.size_eq
    obtain ⟨later, size'⟩ := ih (v.act d (by omega)) orderly (by omega)
    rw [List.append_assoc] at later
    exact ⟨later, size'.trans (by omega)⟩

/-- A session that is closed stays closed, and nothing is accepted in its name any more. -/
theorem past (v : h.Lives accepted) {k : Nat} (hk : k < h.sessions.size) (closed : ¬ h.isOpen k)
    (acts : List Act) (orderly : ∀ a ∈ acts, a.isOrderly)
    (few : h.sessions.size + acts.countP Act.opens < UInt32.size) :
    Command.ofSession (sessionId k) (acceptedIn E h acts) = [] := by
  induction acts generalizing h accepted with
  | nil => rfl
  | cons a acts ih =>
    obtain ⟨first, orderly⟩ := List.forall_mem_cons.mp orderly
    have d := v.registered.dealing_act E a first
    rw [List.countP_cons] at few
    have size := d.size_eq
    have closed' : ¬ (h.act E a).isOpen k := by
      rw [d.isOpen_iff]
      rintro (⟨live, -⟩ | ⟨-, here⟩)
      · exact closed live
      · omega
    have later := ih (v.act d (by omega)) (by omega) closed' orderly (by omega)
    have now : Command.ofSession (sessionId k) (a.accepted h) = [] := by
      refine d.ofSession_of_foreign fun j live same => closed ?_
      have hj := lt_of_isOpen live
      have here : k = j := sessionId_inj (by omega) (by omega) same
      exact here ▸ live
    rw [acceptedIn, Run.seen_cons, Command.ofSession_append, now, List.nil_append]
    exact later

/-- When an open session is closed, what was sent in its name are requests, and there comes a
    closing after them if the driver still runs, and nothing else. -/
theorem stream_of_closed (v : h.Lives accepted) {k : Nat} (live : h.isOpen k) {a : Act}
    (orderly : a.isOrderly) (closes : a.closes k) {later : List Act}
    (orderly' : ∀ b ∈ later, b.isOrderly)
    (few : h.sessions.size + ((if a.opens then 1 else 0) + later.countP Act.opens) < UInt32.size) :
    ∃ requests : List Bytes,
      Command.ofSession (sessionId k) (accepted ++ acceptedIn E h (a :: later)) =
        requests.map (.request (sessionId k)) ++
          if h.isRunning then [.close (sessionId k)] else [] := by
  have d := v.registered.dealing_act E a orderly
  have size := d.size_eq
  have hk := lt_of_isOpen live
  have closed : ¬ (h.act E a).isOpen k := by
    rw [d.isOpen_iff, closes]
    rintro (⟨-, ⟨⟩⟩ | ⟨-, here⟩)
    omega
  have silent := (v.act d (by omega)).past E (by omega) closed later orderly' (by omega)
  obtain ⟨requests, before⟩ := v.asking k live
  refine ⟨requests, ?_⟩
  rw [acceptedIn, Run.seen_cons, ← acceptedIn, Command.ofSession_append, Command.ofSession_append,
    before, silent, d.ofSession_of_closed live closes, List.append_nil]

end Lives

/-- What is known between some acts and the next. -/
theorem lives_between (E : Engine σ) (s : σ) (mode : Mode) {first later : List Act} {a : Act}
    (orderly : ∀ b ∈ first ++ a :: later, b.isOrderly)
    (few : (first ++ a :: later).countP Act.opens < UInt32.size) :
    let start : Hub σ := { engine := s, mode }
    let h := afterActs E start first
    h.Lives (acceptedIn E start first) ∧ a.isOrderly ∧ (∀ b ∈ later, b.isOrderly) ∧
    h.sessions.size + ((if a.opens then 1 else 0) + later.countP Act.opens) < UInt32.size := by
  intro start h
  obtain ⟨orderly, orderly'⟩ := List.forall_mem_append.mp orderly
  obtain ⟨now, orderly'⟩ := List.forall_mem_cons.mp orderly'
  rw [List.countP_append, List.countP_cons] at few
  have none_yet : start.sessions.size = 0 := rfl
  have began : start.Lives [] := lives_start s mode
  obtain ⟨v, size⟩ := began.acts E first orderly (by omega)
  refine ⟨v, now, orderly', ?_⟩
  show (afterActs E start first).sessions.size + _ < _
  omega

/-! ## The law -/

/-- In every run of acts in which the directory is left to sessions (`isOrderly`) and fewer than
    `2 ^ 32` are opened: sessions have different numbers, and the directory contains the number of a
    session exactly if it is open. The accepted commands for one number are requests, then at most
    one `close`; there is one if the driver was running at the first act that closes the session,
    and none otherwise. `request` and `poll` of a closed session fail with `closed` and leave the
    hub as it is. An act changes the entries of no sessions but those that it closes. -/
theorem life_of_sessions (E : Engine σ) (engine : σ) (mode : Mode) (acts : List Act)
    (orderly : ∀ a ∈ acts, a.isOrderly) (few : acts.countP Act.opens < UInt32.size) :
    let start : Hub σ := { engine, mode }
    let h := afterActs E start acts
    let commands := acceptedIn E start acts
    (∀ (j k : Nat) (s t : Session), h.sessions[j]? = some s → h.sessions[k]? = some t →
      s.id = t.id → j = k) ∧
    (∀ id, h.directory.contains id ↔
      ∃ (k : Nat) (s : Session), h.sessions[k]? = some s ∧ s.id = id ∧ s.closed = false) ∧
    (∀ id, ∃ (requests : List Bytes) (closings : List Command),
      Command.ofSession id commands = requests.map (.request id) ++ closings ∧
      (closings = [] ∨ closings = [.close id])) ∧
    (∀ (first later : List Act) (a : Act) (k : Nat) (s : Session), acts = first ++ a :: later →
      (afterActs E start first).sessions[k]? = some s → s.closed = false → a.closes k →
      commands.count (.close s.id) = if (afterActs E start first).isRunning then 1 else 0) ∧
    (∀ (k : Nat) (s : Session), h.sessions[k]? = some s → s.closed →
      (∀ bytes, h.request k bytes = (h, .error .closed)) ∧ h.poll k = (h, .error .closed)) ∧
    ∀ (first later : List Act) (a : Act) (k : Nat) (s : Session), acts = first ++ a :: later →
      (afterActs E start first).sessions[k]? = some s → a.closes k = false →
      (afterActs E start (first ++ [a])).directory.callback? s.id =
        (afterActs E start first).directory.callback? s.id := by
  intro start h commands
  obtain ⟨v, -⟩ := (lives_start engine mode).acts E acts orderly (by simpa using few)
  have v : h.Lives commands := v
  refine ⟨fun j k s t hs ht same => ?_, fun id => ?_, v.whole, ?_, fun k s found closed => ?_, ?_⟩
  · rw [v.registered.id j s hs, v.registered.id k t ht] at same
    have few := v.few
    have hj := (Array.getElem?_eq_some_iff.mp hs).1
    have hk := (Array.getElem?_eq_some_iff.mp ht).1
    exact sessionId_inj (by omega) (by omega) same
  · rw [v.registered.listed]
    refine exists_congr fun k => ?_
    rw [Hub.isOpen_iff]
    constructor
    · rintro ⟨⟨s, found, live⟩, rfl⟩
      exact ⟨s, found, v.registered.id k s found, live⟩
    · rintro ⟨s, found, rfl, live⟩
      exact ⟨⟨s, found, live⟩, v.registered.id k s found⟩
  · rintro first later a k s parts found live closes
    obtain ⟨v, orderly, orderly', few⟩ := lives_between E engine mode (parts ▸ orderly) (parts ▸ few)
    have live : (afterActs E start first).isOpen k := Hub.isOpen_iff.mpr ⟨s, found, live⟩
    obtain ⟨requests, stream⟩ := v.stream_of_closed E live orderly closes orderly' few
    have whole : commands =
        acceptedIn E start first ++ acceptedIn E (afterActs E start first) (a :: later) := by
      rw [show commands = acceptedIn E start acts from rfl, parts]
      exact Run.seen_append ..
    rw [← whole] at stream
    rw [v.registered.id k s found, Command.count_close stream]
    split <;> simp
  · have past : ¬ h.isOpen k := by simp [isOpen, found, closed]
    exact ⟨fun bytes => sendFor_of_not_open past _, sendFor_of_not_open past _⟩
  · rintro first later a k s parts found keeps
    obtain ⟨v, orderly, -, few⟩ := lives_between E engine mode (parts ▸ orderly) (parts ▸ few)
    have d := v.registered.dealing_act E a orderly
    have size := d.size_eq
    have last : afterActs E start (first ++ [a]) = (afterActs E start first).act E a :=
      Run.after_concat ..
    rw [last, v.registered.id k s found]
    exact d.callback?_eq v.registered (by omega) (Array.getElem?_eq_some_iff.mp found).1 keeps

/-- A session without a mailbox makes a request, is closed twice, and makes a request again. -/
theorem life_of_one_session :
    let start : Hub Sources := { engine := {} }
    let acts : List Act := [.openWith (.failing .closed), .move (.request 0 [120]), .move (.close 0),
      .move (.drop 0)]
    let h := afterActs Sources.engine start acts
    (acceptedIn Sources.engine start acts).count (.close ⟨1⟩) = 1 ∧
    h.directory.contains ⟨1⟩ = false ∧ h.request 0 [121] = (h, .error .closed) := by
  intro start acts h
  obtain ⟨-, listed, -, closings, past, -⟩ :=
    life_of_sessions Sources.engine {} .cooperative acts (by decide) (by decide)
  have one := closings (acts.take 2) (acts.drop 3) (.move (.close 0)) 0 ⟨⟨1⟩, false⟩ rfl rfl rfl rfl
  have closed : ∀ (k : Nat) (s : Session), h.sessions[k]? = some s → s.closed = true := by
    intro k s found
    cases k with
    | zero =>
      cases (show some ⟨⟨1⟩, true⟩ = some s from found)
      rfl
    | succ k => cases (show none = some s from found)
  refine ⟨one, ?_, (past 0 ⟨⟨1⟩, true⟩ rfl rfl).1 [121]⟩
  rw [Bool.eq_false_iff]
  intro there
  obtain ⟨k, s, found, -, live⟩ := (listed ⟨1⟩).mp there
  rw [closed k s found] at live
  cases live

end Hub

end SessionHub
