import SessionHub.Proofs.Service.Places

set_option autoImplicit false

/-! # Requests over connections

The engine is asked for what was read in binary frames, in the order in which it was read, whichever
connection it came over (`requests_are_reads`). Nothing else that comes in makes the engine do
anything. A connection does what it does to the hub with its own session and its own mailbox
(`Changed.makes`). -/

namespace SessionHub

/-- The session and the bytes of a request. -/
def Command.request? : Command → Option (SessionId × Bytes)
  | .request session bytes => some (session, bytes)
  | _ => none

/-- The session and the bytes of a request that the engine is called for. -/
def Invocation.request? : Invocation → Option (SessionId × Bytes)
  | .request session bytes => some (session, bytes)
  | _ => none

theorem Command.requests_filter (cs : List Command) :
    (cs.filter (· ≠ .poll)).filterMap request? = cs.filterMap request? := by
  rw [List.filterMap_filter]
  refine congrArg (List.filterMap · cs) (funext fun c => ?_)
  cases c <;> rfl

theorem Invocation.requests_filter (calls : List Invocation) :
    ((calls.filter (· ≠ .poll)).map command).filterMap Command.request? =
      calls.filterMap request? := by
  rw [List.filterMap_map, List.filterMap_filter]
  refine congrArg (List.filterMap · calls) (funext fun call => ?_)
  cases call <;> rfl

namespace Hub

variable {σ : Type} (E : Engine σ)

/-- Whether a move may send a request. -/
def Move.makesRequest : Move → Bool
  | .request .. | .command (.request ..) => true
  | _ => false

theorem requests_of_others (h : Hub σ) {moves : List Move}
    (others : ∀ m ∈ moves, m.makesRequest = false) :
    (accepted E h moves).filterMap Command.request? = [] := by
  induction moves generalizing h with
  | nil => rfl
  | cons m moves ih =>
    obtain ⟨other, others⟩ := List.forall_mem_cons.mp others
    have later := ih (h.move E m) others
    have now : (m.accepted h).filterMap Command.request? = [] := by
      refine List.filterMap_eq_nil_iff.mpr fun c hc => ?_
      have sent : m.sends? h = some c := Option.mem_toList.mp (List.mem_filter.mp hc).1
      cases m with
      | command =>
        cases sent
        cases c <;> first | rfl | cases other
      | request k bytes => cases other
      | poll k | close k | drop k =>
        obtain ⟨s, -, rfl⟩ := Option.map_eq_some_iff.mp sent
        rfl
      | _ => cases sent
    rw [accepted, Run.seen_cons, List.filterMap_append, now]
    exact later

theorem called_of_others (h : Hub σ) {moves : List Move} (others : ∀ m ∈ moves, m ≠ .drive) :
    called E h moves = [] :=
  Run.seen_eq_nil _ _ h fun m hm h => called_of_outside h (others m hm)

/-- A request of an open session is accepted by a driver that runs. -/
theorem isOk_request {h : Hub σ} {k : Nat} (live : h.isOpen k) (bytes : Bytes) :
    (h.request k bytes).2.isOk = h.isRunning := by
  obtain ⟨s, hs, live⟩ := isOpen_iff.mp live
  simp only [Hub.request, sendFor, hs, live, Bool.false_eq_true, if_false, isOk_send]

/-- A driver that has stopped accepts nothing. -/
theorem accepted_of_not_running {h : Hub σ} (past : ¬ h.isRunning) (moves : List Move) :
    accepted E h moves = [] := by
  induction moves generalizing h with
  | nil => rfl
  | cons m moves ih =>
    rw [accepted, Run.seen_cons, accepted_eq, if_neg past]
    exact ih (not_running_move E past m)

/-- The requests that the engine is called for are the first of those that were accepted. -/
theorem Account.requests {s : σ} {h : Hub σ} {accepted : List Command} {begun : List Beginning}
    {called : List Invocation} (a : Account E s h accepted begun called) :
    called.filterMap Invocation.request? <+: accepted.filterMap Command.request? := by
  have made : called <+: begun.map (·.call) := ⟨h.inCall, a.calls⟩
  have same : (begun.map (·.call)).filterMap Invocation.request? =
      (Beginning.ordered begun).filterMap Command.request? := by
    rw [← Command.requests_filter, Beginning.filter_ordered begun a.polls,
      Invocation.requests_filter]
  have due : Beginning.ordered begun <+: accepted :=
    a.carried.trans (List.takeWhile_prefix _)
  exact (made.filterMap _).trans (same ▸ due.filterMap _)

end Hub

/-! ## What a connection does to the hub -/

/-- Whether a move of the hub is one that a connection makes: with its own session, with its own
    mailbox, or with neither. -/
def Connection.Makes (c : Connection) : Hub.Move → Prop
  | .request k _ | .poll k | .close k | .drop k => k = c.session
  | .read k | .leave k => k = c.mailbox
  | .log _ => True
  | _ => False

namespace Service

variable {σ : Type}

theorem Changed.makes {h : Hub σ} {c c' : Connection} {m : Move} {L : List Hub.Move}
    (change : Changed h c m L c') : ∀ a ∈ L, c.Makes a := by
  cases change with
  | turn turn =>
    cases turn with
    | ended outbound inbound result looping leaving =>
      cases leaving <;> simp [Connection.farewell, Connection.Makes]
    | _ => simp [Connection.Makes]
  | _ => simp [Connection.Makes]

/-! ## What is seen of a run -/

/-- The binary frame that a move reads, and the connection that it comes over. -/
def Move.read? (n : Network σ Socket) : Move → Option (Nat × Bytes)
  | .serve k => (n.members[k]?.bind fun c => Connection.binaryRead? n.hub c).map (k, ·)
  | _ => none

/-- The binary frames that are read in a run, in order, each with the connection that it comes
    over. -/
def reads (E : Engine σ) (n : Network σ Socket) (moves : List Move) : List (Nat × Bytes) :=
  Run.seen (move E) (fun n m => (m.read? n).toList) n moves

/-- The call of the engine that a move makes. -/
def Move.called (n : Network σ Socket) : Move → List Invocation
  | .drive => n.hub.inCall
  | _ => []

/-- The calls of the engine that are made in a run, in order. -/
def called (E : Engine σ) (n : Network σ Socket) (moves : List Move) : List Invocation :=
  Run.seen (move E) (fun n m => m.called n) n moves

/-- The binary frame that a move about `c` reads. -/
def Move.takes? (h : Hub σ) (c : Connection) : Move → Option Bytes
  | .serve _ => c.binaryRead? h
  | _ => none

theorem read?_of_some {n : Network σ Socket} {m : Move} {k : Nat} {c : Connection}
    (about : m.connection? = some k) (found : n.members[k]? = some c) :
    m.read? n = (m.takes? n.hub c).map (k, ·) := by
  cases m with
  | serve j =>
    cases about
    rw [Move.read?, found]
    rfl
  | _ => rfl

theorem read?_of_none {n : Network σ Socket} {m : Move} {k : Nat}
    (about : m.connection? = some k) (vacant : n.members[k]? = none) : m.read? n = none := by
  cases m with
  | serve j =>
    cases about
    rw [Move.read?, vacant]
    rfl
  | _ => rfl

/-- Whatever the moves of a connection do, the requests among what the hub accepts are what was read
    in binary frames. -/
theorem Changed.requests (E : Engine σ) {h : Hub σ} {c c' : Connection} {m : Move} {L : List Hub.Move}
    (change : Changed h c m L c') (running : h.isRunning)
    (live : c.role.looping → h.isOpen c.session) :
    (Hub.accepted E h L).filterMap Command.request? =
      ((m.takes? h c).map (c.sessionId h, ·)).toList := by
  have none_sent : ∀ {L}, (∀ a ∈ L, a.makesRequest = false) → m.takes? h c = none →
      (Hub.accepted E h L).filterMap Command.request? =
        ((m.takes? h c).map (c.sessionId h, ·)).toList := by
    intro L others nothing
    rw [Hub.requests_of_others E h others, nothing]
    rfl
  cases change with
  | @turn k _ _ turn =>
    cases turn with
    | nothing reads => exact none_sent (by simp) reads.1
    | delivered waits looping =>
      refine none_sent (by simp [Hub.Move.makesRequest]) (Connection.reads_nothing ?_).1
      exact Connection.arrival?_of_unread (by simp [waits])
    | carried waits looping =>
      refine none_sent (by simp) (Connection.reads_nothing ?_).1
      exact Connection.arrival?_of_outbound (by simp [waits])
    | @asked bytes rest reads accepted =>
      obtain ⟨s, hs, still⟩ := Hub.isOpen_iff.mp (live (Connection.looping_of_binaryRead reads))
      have first : Hub.Move.accepted h (.request c.session bytes) = [.request s.id bytes] := by
        rw [Hub.accepted_eq, if_pos running, Hub.Move.sends?,
          Hub.openSession?_of_open hs (by simp [still])]
        rfl
      have number : c.sessionId h = s.id := by
        rw [Connection.sessionId, hs]
        rfl
      have takes : (Move.serve k).takes? h c = some bytes := reads
      rw [Hub.accepted, Run.seen_cons, first, List.filterMap_append, takes, number]
      exact congrArg (_ :: ·) (Hub.requests_of_others E _ (by simp [Hub.Move.makesRequest]))
    | told rest reads =>
      exact none_sent (by simp [Hub.Move.makesRequest]) (Connection.binaryRead?_of_text reads)
    | passed rest reads frames => exact none_sent (by simp) reads.1
    | @ended moves outbound inbound result looping leaving =>
      have nothing : (Move.serve k).takes? h c = none := by
        cases leaving with
        | undelivered waits =>
          exact (Connection.reads_nothing (Connection.arrival?_of_unread (by simp [waits]))).1
        | refused reads refusal =>
          rw [Hub.isOk_request (live looping), running] at refusal
          cases refusal
        | plain records nothing => exact nothing.1
      have parts : Hub.accepted E h (moves ++ c.farewell result) =
          Hub.accepted E h moves ++ Hub.accepted E (Hub.after E h moves) (c.farewell result) :=
        Run.seen_append ..
      rw [parts, leaving.accepted E, List.nil_append, nothing]
      exact Hub.requests_of_others E _ (by simp [Connection.farewell, Hub.Move.makesRequest])
  | unsent none_there => exact none_sent (by simp) rfl
  | sent looping found => exact none_sent (by simp) rfl
  | turnedAway past found told => exact none_sent (by simp [Hub.Move.makesRequest]) rfl
  | owned hm =>
    refine none_sent (by simp [Hub.Move.makesRequest]) ?_
    cases m <;> first | rfl | cases hm
  | brought a => exact none_sent (by simp) rfl
  | linked unwritable => exact none_sent (by simp) rfl

namespace Moved

variable {E : Engine σ} {n n' : Network σ Socket} {m : Move} {L : List Hub.Move}

theorem requests (v : Moved E n n' m L) (placed : Placed n) (running : n.hub.isRunning)
    (orderly : m.isOrderly) :
    (Hub.accepted E n.hub L).filterMap Command.request? =
      ((m.read? n).map fun r => (Hub.sessionId r.1, r.2)).toList := by
  cases v with
  | @aside a hm hub members =>
    have nothing : m.read? n = none := by cases m <;> first | rfl | cases hm
    rw [nothing]
    refine Hub.requests_of_others E _ fun b hb => ?_
    rw [List.mem_singleton.mp hb]
    cases m <;> cases hm <;> try rfl
    next command => cases command <;> first | rfl | cases orderly
  | accepted hm r hub members =>
    subst hm
    rfl
  | absent hm vacant hub members =>
    rw [read?_of_none hm vacant]
    rfl
  | changed hm found change hub members =>
    have live := (placed.isOpen found).mpr
    rw [← (placed.place _ _ found).1] at live
    rw [change.requests E running live, read?_of_some hm found, placed.sessionId_eq found,
      Option.map_map]
    rfl

theorem called_eq (v : Moved E n n' m L) : Hub.called E n.hub L = m.called n := by
  cases v with
  | aside hm hub members =>
    cases m <;> cases hm <;> first | rfl | exact List.append_nil _
  | accepted hm r hub members =>
    subst hm
    rfl
  | absent hm vacant hub members => cases m <;> first | rfl | cases hm
  | changed hm found change hub members =>
    have nothing : m.called n = [] := by cases m <;> first | rfl | cases hm
    rw [nothing]
    exact Hub.called_of_others E _ fun a ha drives => by
      have makes := change.makes a ha
      rw [drives] at makes
      exact makes

end Moved

/-- How the requests of connections stand to what they have read. -/
def Accounted (E : Engine σ) (s : σ) (n : Network σ Socket) (called : List Invocation)
    (reads : List (Nat × Bytes)) : Prop :=
  ∃ accepted begun, Hub.Account E s n.hub accepted begun called ∧
    accepted.filterMap Command.request? <+: reads.map (fun r => (Hub.sessionId r.1, r.2)) ∧
    (n.hub.isRunning → accepted.filterMap Command.request? =
      reads.map fun r => (Hub.sessionId r.1, r.2))

theorem Accounted.moved {E : Engine σ} {s : σ} {n n' : Network σ Socket}
    {called : List Invocation} {reads : List (Nat × Bytes)} (v : Accounted E s n called reads)
    (placed : Placed n) {m : Move} {L : List Hub.Move} (move : Moved E n n' m L)
    (orderly : m.isOrderly) :
    Accounted E s n' (called ++ m.called n) (reads ++ (m.read? n).toList) := by
  obtain ⟨accepted, begun, account, fits, whole⟩ := v
  have later := account.moves L
  rw [← move.hub_eq, move.called_eq] at later
  refine ⟨_, _, later, ?_⟩
  rw [List.map_append, List.filterMap_append]
  by_cases running : n.hub.isRunning
  · -- all that is read is accepted
    have same : (Hub.accepted E n.hub L).filterMap Command.request? =
        (m.read? n).toList.map fun r => (Hub.sessionId r.1, r.2) := by
      rw [move.requests placed running orderly]
      cases m.read? n <;> rfl
    rw [same, whole running]
    exact ⟨List.prefix_rfl, fun _ => rfl⟩
  · rw [Hub.accepted_of_not_running E running, List.filterMap_nil, List.append_nil, move.hub_eq]
    exact ⟨fits.trans (List.prefix_append _ _),
      fun still => absurd still (Hub.not_running_after E running L)⟩

/-- Over any engine, if every move is orderly (`Move.isOrderly`), the requests that the engine is
    called for are the first of the binary frames that connections have read, in order and each
    once. -/
theorem requests_are_reads (E : Engine σ) (engine : σ) (mode : Mode) (moves : List Move)
    (orderly : ∀ m ∈ moves, m.isOrderly) :
    let start := start engine mode
    (called E start moves).filterMap Invocation.request? <+:
      (reads E start moves).map fun r => (Hub.sessionId r.1, r.2) := by
  intro start
  have v : Accounted E engine (after E start moves) (called E start moves) (reads E start moves) := by
    revert orderly
    refine Run.after_induction (Service.move E) (motive := fun moves n =>
      (∀ m ∈ moves, m.isOrderly) → Accounted E engine n (called E start moves) (reads E start moves))
      start ?_ ?_ moves
    · intro _
      exact ⟨[], [], Hub.account_start E engine mode, List.prefix_rfl, fun _ => rfl⟩
    · intro moves m ih orderly
      obtain ⟨L, move⟩ := moved E (after E start moves) m
      have first := orderly m (List.mem_append_right _ (List.mem_singleton.mpr rfl))
      have v := (ih fun m hm => orderly m (List.mem_append_left _ hm)).moved
        (placed_after E engine mode moves) move first
      rw [called, reads, Run.seen_concat, Run.seen_concat]
      exact v
  obtain ⟨accepted, begun, account, fits, -⟩ := v
  exact account.requests.trans fits

end Service

end SessionHub
