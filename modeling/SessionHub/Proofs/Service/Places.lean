import SessionHub.Proofs.Hub.Register
import SessionHub.Proofs.Service.Run

set_option autoImplicit false

/-! # The places of connections

The connection that is accepted after `k` others has session `k` and mailbox `k`. As long as its
loop runs, and no longer, the session is open and the mailbox attended. The directory has
connections whose loops run, and no others, though not always all of them (`Placed`). This holds
also if commands are sent and sessions struck off from elsewhere. -/

namespace SessionHub

/-! ## The end of a loop, as the hub sees it -/

namespace Connection

variable {σ : Type} (E : Engine σ) {h : Hub σ} {c : Connection}

/-- The end of a loop closes the session, which must be open, and leaves the mailbox. -/
theorem after_farewell {s : Session} (hs : h.sessions[c.session]? = some s)
    (live : s.closed = false) (result : Except String Unit) :
    let h' := Hub.after E h (c.farewell result)
    h'.sessions = h.sessions.modify c.session (fun s => { s with closed := true }) ∧
    h'.directory = h.directory.remove s.id ∧
    h'.mailboxes = h.mailboxes.modify c.mailbox (fun _ => { unread := [], attended := false }) ∧
    h'.queue = h.queue ++ if h.isRunning then [.close s.id] else [] := by
  let logged := h.noteAll c.caller.terminate.2.2
  obtain ⟨log, closed⟩ : ∃ log, logged.close c.session = { logged with
      sessions := h.sessions.modify c.session fun s => { s with closed := true }
      directory := h.directory.remove s.id
      queue := h.queue ++ if h.isRunning then [.close s.id] else []
      log } := Hub.close_eq hs live
  let noted := (logged.close c.session).noteAll c.caller.terminate.1.letGo.2
  -- the session that is dropped is closed already
  have past : ¬ noted.isOpen c.session := by
    have same : noted.sessions[c.session]? = some { s with closed := true } := by
      show (logged.close c.session).sessions[c.session]? = _
      rw [closed]
      simp [Array.getElem?_modify, hs]
    simp [Hub.isOpen, same]
  intro h'
  have ends : ∃ log handles, h' = { noted with
      mailboxes := noted.mailboxes.modify c.mailbox fun _ => { unread := [], attended := false }
      log
      handles } := by
    show ∃ log handles, ((noted.drop c.session).leaveMailbox c.mailbox).noteAll _ = _
    rw [Hub.drop, Hub.close_of_not_open past]
    exact ⟨_, _, rfl⟩
  obtain ⟨_, _, ends⟩ := ends
  have begins : noted = (logged.close c.session).noteAll c.caller.terminate.1.letGo.2 := rfl
  rw [ends, begins, closed]
  exact ⟨rfl, rfl, rfl, rfl⟩

/-- A session that is refused sends nothing. -/
theorem accepted_of_refused {k : Nat} {bytes : Bytes} (refusal : (h.request k bytes).2.isOk = false) :
    Hub.Move.accepted h (.request k bytes) = [] := by
  rw [Hub.accepted_eq, Hub.Move.sends?]
  unfold Hub.request Hub.sendFor at refusal
  cases found : h.sessions[k]? with
  | none =>
    rw [Hub.openSession?_of_missing found]
    exact ite_self _
  | some s =>
    by_cases closed : s.closed
    · rw [Hub.openSession?_of_closed found closed]
      exact ite_self _
    · simp only [found, closed, Bool.false_eq_true, if_false, Hub.isOk_send] at refusal
      rw [refusal]
      rfl

namespace Leaving

variable {moves : List Hub.Move}

theorem isPlain (leaving : Leaving h c moves) : ∀ m ∈ moves, m.isPlain := by
  intro m hm
  cases leaving <;> rw [List.mem_singleton.mp hm] <;> rfl

/-- A loop that comes to its end has not sent anything before. -/
theorem accepted (leaving : Leaving h c moves) : Hub.accepted E h moves = [] := by
  cases leaving with
  | undelivered waits => rfl
  | refused reads refusal => exact (List.append_nil _).trans (accepted_of_refused refusal)
  | plain records nothing => rfl

end Leaving

end Connection

namespace Service

variable {σ : Type}

/-- What a move does to a connection and to the hub: either the loop does not end, and the hub sees
    nothing but uses of the session, or it ends. -/
theorem Changed.goes_on_or_ends {h : Hub σ} {c c' : Connection} {m : Move} {L : List Hub.Move}
    (change : Changed h c m L c') :
    c'.session = c.session ∧ c'.mailbox = c.mailbox ∧
    (c'.role.looping = c.role.looping ∧ (∀ a ∈ L, a.isPlain) ∨
      c.role.looping ∧ c'.role.looping = false ∧ c'.caller = c.caller.terminate.1.letGo.1 ∧
        ∃ moves result, c.Leaving h moves ∧ L = moves ++ c.farewell result) := by
  cases change with
  | turn turn =>
    cases turn with
    | nothing reads => exact ⟨rfl, rfl, .inl ⟨rfl, by simp⟩⟩
    | delivered waits looping => exact ⟨rfl, rfl, .inl ⟨rfl, by simp [Hub.Move.isPlain]⟩⟩
    | carried waits looping => exact ⟨rfl, rfl, .inl ⟨rfl, by simp⟩⟩
    | asked rest reads accepted => exact ⟨rfl, rfl, .inl ⟨rfl, by simp [Hub.Move.isPlain]⟩⟩
    | told rest reads => exact ⟨rfl, rfl, .inl ⟨rfl, by simp [Hub.Move.isPlain]⟩⟩
    | passed rest reads frames => exact ⟨rfl, rfl, .inl ⟨rfl, by simp⟩⟩
    | ended outbound inbound result looping leaving =>
      exact ⟨rfl, rfl, .inr ⟨looping, rfl, rfl, _, result, leaving, rfl⟩⟩
  | unsent none_there => exact ⟨rfl, rfl, .inl ⟨rfl, by simp⟩⟩
  | sent looping found => exact ⟨rfl, rfl, .inl ⟨rfl, by simp⟩⟩
  | turnedAway past found told => exact ⟨rfl, rfl, .inl ⟨rfl, by simp [Hub.Move.isPlain]⟩⟩
  | owned hm => exact ⟨rfl, rfl, .inl ⟨rfl, by simp [Hub.Move.isPlain]⟩⟩
  | brought a => exact ⟨rfl, rfl, .inl ⟨rfl, by simp⟩⟩
  | linked unwritable => exact ⟨rfl, rfl, .inl ⟨rfl, by simp⟩⟩

/-- Either the loop of a connection goes on as before, or it comes to its end. -/
theorem Moved.loop_cases {E : Engine σ} {n n' : Network σ Socket} {m : Move} {L : List Hub.Move}
    (v : Moved E n n' m L) {k : Nat} {c c' : Connection} (found : n.members[k]? = some c)
    (found' : n'.members[k]? = some c') :
    c'.role.looping = c.role.looping ∨
    m.connection? = some k ∧ c.role.looping ∧ c'.caller = c.caller.terminate.1.letGo.1 ∧
      ∃ moves result, c.Leaving n.hub moves ∧
        n'.hub = Hub.after E n.hub (moves ++ c.farewell result) := by
  obtain ⟨d, there, change⟩ := v.member found
  cases found'.symm.trans there
  rcases change with ⟨-, rfl⟩ | ⟨about, change⟩
  · exact .inl rfl
  · obtain ⟨-, -, ⟨same, -⟩ | ⟨looping, -, caller, moves, result, leaving, rfl⟩⟩ :=
      change.goes_on_or_ends
    · exact .inl same
    · exact .inr ⟨about, looping, caller, moves, result, leaving, v.hub_eq⟩

/-! ## Places -/

/-- How connections stand to sessions, mailboxes and the directory. -/
structure Placed (n : Network σ Socket) : Prop where
  sessions : n.hub.sessions.size = n.members.size
  mailboxes : n.hub.mailboxes.size = n.members.size
  enrolments : n.hub.directory.enrolments = n.members.size
  place : ∀ (k : Nat) (c : Connection), n.members[k]? = some c → c.session = k ∧ c.mailbox = k
  session : ∀ (k : Nat) (c : Connection), n.members[k]? = some c →
    n.hub.sessions[k]? = some ⟨Hub.sessionId k, !c.role.looping⟩
  attended : ∀ (k : Nat) (c : Connection), n.members[k]? = some c →
    n.hub.mailboxes[k]?.any (·.attended) = c.role.looping
  entry : ∀ e ∈ n.hub.directory.entries, ∃ (k : Nat) (c : Connection),
    n.members[k]? = some c ∧ c.role.looping ∧ e = (Hub.sessionId k, .mailbox k)

theorem placed_start (engine : σ) (mode : Mode) : Placed (start engine mode) where
  sessions := rfl
  mailboxes := rfl
  enrolments := rfl
  place _ _ found := by cases found
  session _ _ found := by cases found
  attended _ _ found := by cases found
  entry := nofun

namespace Placed

variable {n n' : Network σ Socket}

/-- No loop ends and no connection is accepted. An entry may be struck off. -/
theorem of_same (v : Placed n) (sessions : n'.hub.sessions = n.hub.sessions)
    (mailboxes : n'.hub.mailboxes.size = n.hub.mailboxes.size)
    (attended : ∀ k : Nat, n'.hub.mailboxes[k]?.any (·.attended) =
      n.hub.mailboxes[k]?.any (·.attended))
    (enrolments : n'.hub.directory.enrolments = n.hub.directory.enrolments)
    (entries : n'.hub.directory.entries ⊆ n.hub.directory.entries)
    (size : n'.members.size = n.members.size)
    (members : ∀ (k : Nat) (c' : Connection), n'.members[k]? = some c' → ∃ c : Connection,
      n.members[k]? = some c ∧ c'.session = c.session ∧ c'.mailbox = c.mailbox ∧
        c'.role.looping = c.role.looping) : Placed n' where
  sessions := by rw [sessions, size, v.sessions]
  mailboxes := by rw [mailboxes, size, v.mailboxes]
  enrolments := by rw [enrolments, size, v.enrolments]
  place k c' found' := by
    obtain ⟨c, found, session, mailbox, -⟩ := members k c' found'
    rw [session, mailbox]
    exact v.place k c found
  session k c' found' := by
    obtain ⟨c, found, -, -, looping⟩ := members k c' found'
    rw [sessions, looping]
    exact v.session k c found
  attended k c' found' := by
    obtain ⟨c, found, -, -, looping⟩ := members k c' found'
    rw [attended, looping]
    exact v.attended k c found
  entry e he := by
    obtain ⟨k, c, found, looping, rfl⟩ := v.entry e (entries he)
    have inside : k < n'.members.size := size ▸ (Array.getElem?_eq_some_iff.mp found).1
    obtain ⟨d, found', -, -, same⟩ := members k _ (Array.getElem?_eq_getElem inside)
    rw [found] at found'
    cases found'
    exact ⟨k, _, Array.getElem?_eq_getElem inside, same.trans looping, rfl⟩

theorem of_sameRecord (v : Placed n) (same : n.hub.SameRecord n'.hub)
    (size : n'.members.size = n.members.size)
    (members : ∀ (k : Nat) (c' : Connection), n'.members[k]? = some c' → ∃ c : Connection,
      n.members[k]? = some c ∧ c'.session = c.session ∧ c'.mailbox = c.mailbox ∧
        c'.role.looping = c.role.looping) : Placed n' :=
  v.of_same same.sessions same.size same.attended (congrArg _ same.directory)
    (fun _ he => same.directory ▸ he) size members

/-- A connection is accepted: the directory counts as sessions do. -/
theorem accepted (v : Placed n) (shared : Bool) {r : Record}
    (hub : n'.hub = n.hub.openMailbox.1.note r)
    (members : n'.members = n.members.push (fresh n.hub shared)) : Placed n' := by
  have number : n.hub.directory.nextId = Hub.sessionId n.members.size := by
    rw [Directory.nextId, v.enrolments, Hub.sessionId]
  have sessions : n'.hub.sessions = n.hub.sessions.push { id := Hub.sessionId n.members.size } := by
    rw [hub, ← number]
    rfl
  have mailboxes : n'.hub.mailboxes = n.hub.mailboxes.push {} := by rw [hub]; rfl
  have directory : n'.hub.directory = n.hub.directory.enrol (.mailbox n.members.size) := by
    rw [hub, ← v.mailboxes]
    rfl
  have size : n'.members.size = n.members.size + 1 := by rw [members, Array.size_push]
  have last : n'.members[n.members.size]? = some (fresh n.hub shared) := by
    rw [members, Array.getElem?_push, if_pos rfl]
  have before : ∀ (k : Nat) (c : Connection), n.members[k]? = some c →
      k ≠ n.members.size ∧ n'.members[k]? = some c := by
    intro k c found
    have inside : k < n.members.size := (Array.getElem?_eq_some_iff.mp found).1
    refine ⟨Nat.ne_of_lt inside, ?_⟩
    rw [members, Array.getElem?_push, if_neg (Nat.ne_of_lt inside), found]
  have cases_of : ∀ (k : Nat) (c : Connection), n'.members[k]? = some c →
      k = n.members.size ∧ c = fresh n.hub shared ∨ k ≠ n.members.size ∧ n.members[k]? = some c := by
    intro k c found
    rw [members, Array.getElem?_push] at found
    split at found
    · next hk => exact .inl ⟨hk, (Option.some.inj found).symm⟩
    · next hk => exact .inr ⟨hk, found⟩
  exact {
    sessions := by rw [sessions, Array.size_push, v.sessions, size]
    mailboxes := by rw [mailboxes, Array.size_push, v.mailboxes, size]
    enrolments := by
      rw [directory, size, ← v.enrolments]
      rfl
    place := by
      intro k c found
      rcases cases_of k c found with ⟨rfl, rfl⟩ | ⟨-, found⟩
      · exact ⟨v.sessions, v.mailboxes⟩
      · exact v.place k c found
    session := by
      intro k c found
      rw [sessions, Array.getElem?_push, v.sessions]
      rcases cases_of k c found with ⟨rfl, rfl⟩ | ⟨hk, found⟩
      · exact if_pos rfl
      · rw [if_neg hk]
        exact v.session k c found
    attended := by
      intro k c found
      rw [mailboxes, Array.getElem?_push, v.mailboxes]
      rcases cases_of k c found with ⟨rfl, rfl⟩ | ⟨hk, found⟩
      · rw [if_pos rfl]
        rfl
      · rw [if_neg hk]
        exact v.attended k c found
    entry := by
      intro e he
      rw [directory, Directory.enrol, number] at he
      rcases List.mem_cons.mp he with rfl | he
      · exact ⟨_, _, last, rfl, rfl⟩
      · have old : e ∈ n.hub.directory.entries := by
          split at he
          · exact he
          · exact (List.mem_filter.mp he).1
        obtain ⟨k, c, found, looping, same⟩ := v.entry e old
        exact ⟨k, c, (before k c found).2, looping, same⟩ }

theorem sessionId_eq (v : Placed n) {k : Nat} {c : Connection} (found : n.members[k]? = some c) :
    c.sessionId n.hub = Hub.sessionId k := by
  rw [Connection.sessionId, (v.place k c found).1, v.session k c found]
  rfl

/-- A connection whose loop runs has an open session. -/
theorem isOpen (v : Placed n) {k : Nat} {c : Connection}
    (found : n.members[k]? = some c) : n.hub.isOpen k ↔ c.role.looping := by
  rw [Hub.isOpen, v.session k c found]
  simp

/-- As long as numbers are not used twice, connections are told apart by them. -/
theorem sessionId_inj (v : Placed n) (few : n.members.size < UInt32.size) {j k : Nat}
    {c d : Connection}
    (found : n.members[j]? = some c) (there : n.members[k]? = some d)
    (same : c.sessionId n.hub = d.sessionId n.hub) : j = k := by
  rw [v.sessionId_eq found, v.sessionId_eq there] at same
  have inside : j < n.members.size := (Array.getElem?_eq_some_iff.mp found).1
  have inside' : k < n.members.size := (Array.getElem?_eq_some_iff.mp there).1
  exact Hub.sessionId_inj (by omega) (by omega) same

/-- As long as numbers are not used twice, the directory has a connection only while its loop
    runs. -/
theorem looping_of_contains (v : Placed n) (few : n.members.size < UInt32.size) {k : Nat}
    {c : Connection}
    (found : n.members[k]? = some c) (listed : n.hub.directory.contains (c.sessionId n.hub)) :
    c.role.looping := by
  obtain ⟨callback, reached⟩ := Option.isSome_iff_exists.mp listed
  obtain ⟨l₁, l₂, parts, -⟩ := List.lookup_eq_some_iff.mp reached
  obtain ⟨j, d, there, looping, same⟩ := v.entry (c.sessionId n.hub, callback) (by
    rw [parts]
    simp)
  have here : c.sessionId n.hub = d.sessionId n.hub :=
    (congrArg Prod.fst same).trans (v.sessionId_eq there).symm
  cases v.sessionId_inj few found there here
  rw [found] at there
  cases there
  exact looping

/-- What becomes of the hub when the loop of connection `k` ends. -/
theorem hub_of_end (v : Placed n) (E : Engine σ) {k : Nat} {c : Connection}
    (found : n.members[k]? = some c) (looping : c.role.looping) {moves : List Hub.Move}
    (leaving : c.Leaving n.hub moves) (result : Except String Unit) :
    let h' := Hub.after E n.hub (moves ++ c.farewell result)
    h'.sessions = n.hub.sessions.modify k (fun s => { s with closed := true }) ∧
    h'.directory = n.hub.directory.remove (Hub.sessionId k) ∧
    h'.mailboxes.size = n.hub.mailboxes.size ∧
    (∀ j : Nat, h'.mailboxes[j]?.any (·.attended) =
      if k = j then false else n.hub.mailboxes[j]?.any (·.attended)) ∧
    h'.queue = n.hub.queue ++ if n.hub.isRunning then [.close (Hub.sessionId k)] else [] := by
  let left := Hub.after E n.hub moves
  have same : n.hub.SameRecord left := n.hub.sameRecord_of_plain E leaving.isPlain
  have queued := n.hub.queued_of_plain E leaving.isPlain
  obtain ⟨session, mailbox⟩ := v.place k c found
  have hs : left.sessions[c.session]? = some ⟨Hub.sessionId k, false⟩ := by
    rw [same.sessions, session, v.session k c found, looping]
    rfl
  obtain ⟨sessions, directory, mailboxes, queue⟩ := Connection.after_farewell E hs rfl result
  have parts : Hub.after E n.hub (moves ++ c.farewell result) =
      Hub.after E left (c.farewell result) := Run.after_append ..
  rw [same.sessions, session] at sessions
  rw [same.directory] at directory
  rw [queued.running, queued.queue, leaving.accepted E, List.append_nil] at queue
  intro h'
  rw [← parts] at sessions directory mailboxes queue
  refine ⟨sessions, directory, ?_, fun j => ?_, queue⟩
  · rw [mailboxes, Array.size_modify, same.size]
  · rw [mailboxes, mailbox, Array.getElem?_modify]
    split
    · cases left.mailboxes[j]? <;> rfl
    · exact same.attended j

/-- The loop of connection `k` ends. -/
theorem ended (v : Placed n) (E : Engine σ) {k : Nat} {c c' : Connection}
    (found : n.members[k]? = some c) (looping : c.role.looping) {moves : List Hub.Move}
    (leaving : c.Leaving n.hub moves) (result : Except String Unit)
    (session : c'.session = c.session) (mailbox : c'.mailbox = c.mailbox)
    (past : c'.role.looping = false)
    (hub : n'.hub = Hub.after E n.hub (moves ++ c.farewell result))
    (members : n'.members = n.members.set! k c') : Placed n' := by
  obtain ⟨sessions, directory, mailboxes, attended, -⟩ := v.hub_of_end E found looping leaving result
  rw [← hub] at sessions directory mailboxes attended
  have size : n'.members.size = n.members.size := by
    rw [members]
    exact Array.size_setIfInBounds
  have member : ∀ j, n'.members[j]? = if k = j then some c' else n.members[j]? := by
    intro j
    rw [members, Network.members_set found]
  exact {
    sessions := by rw [sessions, Array.size_modify, v.sessions, size]
    mailboxes := by rw [mailboxes, v.mailboxes, size]
    enrolments := by
      rw [directory, size]
      exact v.enrolments
    place := by
      intro j d there
      rw [member] at there
      split at there
      · next same =>
        cases there
        rw [session, mailbox, ← same]
        exact v.place k c found
      · exact v.place j d there
    session := by
      intro j d there
      rw [sessions, Array.getElem?_modify]
      rw [member] at there
      split at there
      · next same =>
        cases there
        rw [if_pos same, ← same, v.session k c found, past]
        rfl
      · next other =>
        rw [if_neg other]
        exact v.session j d there
    attended := by
      intro j d there
      rw [member] at there
      rw [attended]
      split at there
      · next same =>
        cases there
        rw [if_pos same, past]
      · next other =>
        rw [if_neg other]
        exact v.attended j d there
    entry := by
      intro e he
      rw [directory] at he
      obtain ⟨he, other⟩ := List.mem_filter.mp he
      obtain ⟨j, d, there, still, rfl⟩ := v.entry e he
      refine ⟨j, d, ?_, still, rfl⟩
      rw [member, if_neg, there]
      rintro rfl
      simp at other }

theorem moved (v : Placed n) {E : Engine σ} {m : Move} {L : List Hub.Move}
    (move : Moved E n n' m L) : Placed n' := by
  cases move with
  | aside hm hub members =>
    have same : ∀ (k : Nat) (c' : Connection), n'.members[k]? = some c' → ∃ c : Connection,
        n.members[k]? = some c ∧ c'.session = c.session ∧ c'.mailbox = c.mailbox ∧
          c'.role.looping = c.role.looping :=
      fun k c' found' => ⟨c', members ▸ found', rfl, rfl, rfl⟩
    have size : n'.members.size = n.members.size := congrArg _ members
    cases m with
    | strike id =>
      cases hm
      have struck : n'.hub.directory = n.hub.directory.remove id := by rw [hub]; rfl
      refine v.of_same (by rw [hub]; rfl) (by rw [hub]; rfl) (fun k => by rw [hub]; rfl)
        (by rw [struck]; rfl) ?_ size same
      rw [struck]
      exact fun _ he => (List.mem_filter.mp he).1
    | drive | command | retain | letGo =>
      cases hm
      refine v.of_sameRecord ?_ size same
      rw [hub]
      exact n.hub.sameRecord_move E rfl
    | _ => cases hm
  | @accepted shared hm r hub members => exact v.accepted shared hub members
  | absent hm vacant hub members =>
    refine v.of_sameRecord (hub ▸ .refl _) (congrArg _ members) fun k c' found' => ?_
    exact ⟨c', members ▸ found', rfl, rfl, rfl⟩
  | @changed k c c' _ hm found change hub members =>
    obtain ⟨session, mailbox, ⟨looping, plain⟩ | ⟨looping, past, -, moves, result, leaving, rfl⟩⟩ :=
      change.goes_on_or_ends
    · refine v.of_sameRecord ?_ ?_ fun j d' found' => ?_
      · rw [hub]
        exact n.hub.sameRecord_of_plain E plain
      · rw [members]
        exact Array.size_setIfInBounds
      · rw [members, Network.members_set found] at found'
        split at found'
        · next same =>
          cases found'
          exact ⟨c, same ▸ found, session, mailbox, looping⟩
        · exact ⟨d', found', rfl, rfl, rfl⟩
    · exact v.ended E found looping leaving result session mailbox past hub members

end Placed

theorem placed_after (E : Engine σ) (engine : σ) (mode : Mode) (moves : List Move) :
    Placed (after E (start engine mode) moves) := by
  refine Run.after_induction (Service.move E) (motive := fun _ n => Placed n) (start engine mode)
    (placed_start engine mode) (fun moves m v => ?_) moves
  obtain ⟨L, move⟩ := moved E (after E (start engine mode) moves) m
  exact v.moved move

end Service

end SessionHub
