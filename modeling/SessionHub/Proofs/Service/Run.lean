import SessionHub.Proofs.Caller.Keys
import SessionHub.Proofs.Network.Members
import SessionHub.Proofs.Service.Turn

set_option autoImplicit false

/-! # Runs of a service

A service is a network of connections. The driver, the loops, the sends, the peers, and the holders
of callers, tickets or handles of the hub take their steps in any order. Links break at any time,
and sessions may be struck off the directory.

A move does something to the hub alone, or it accepts a connection, or it does something to one
connection and to the hub, and to no other connection (`Moved`, `moved`). What is the law of a
single connection is proved from what happens to it (`history_induction`). -/

namespace SessionHub

namespace Service

variable {σ : Type}

/-! ## Moves -/

/-- What can happen to a service. -/
inductive Move where
  /-- The driver takes a step. -/
  | drive
  /-- A command is sent through a handle of the hub. -/
  | command (c : Command)
  /-- One more holds a handle of the hub. -/
  | retain
  /-- One less holds a handle of the hub. -/
  | letGo
  /-- A session is struck off the directory. -/
  | strike (id : SessionId)
  /-- A connection is accepted. -/
  | accept (shared : Bool)
  /-- The peer of connection `k` sends something. -/
  | bring (k : Nat) (a : Arrival)
  /-- The link to the peer of connection `k` breaks, or is mended. -/
  | link (k : Nat) (unwritable : Option String)
  /-- The loop of connection `k` has a turn. -/
  | serve (k : Nat)
  /-- The send at place `i` of connection `k` is put before its loop. -/
  | send (k i : Nat)
  /-- A call of connection `k` is issued. -/
  | call (k : Nat) (method : String) (args : List Json) (named : List (String × Json))
  /-- Ticket `j` of connection `k` is asked for its result. -/
  | collect (k j : Nat)
  /-- The wait at ticket `j` of connection `k` times out. -/
  | expire (k j : Nat)
  /-- Ticket `j` of connection `k` is given up. -/
  | release (k j : Nat)
  | terminate (k : Nat)
  /-- One more holds the caller of connection `k`. -/
  | clone (k : Nat)
  /-- One less holds the caller of connection `k`. -/
  | drop (k : Nat)

/-- A service without connections. -/
def start (engine : σ) (mode : Mode) : Network σ Socket :=
  { hub := { engine, mode } }

/-- The service after a move. -/
def move (E : Engine σ) (n : Network σ Socket) : Move → Network σ Socket
  | .drive => n.drive E
  | .command c => { n with hub := (n.hub.send c).1 }
  | .retain => { n with hub := n.hub.retain }
  | .letGo => { n with hub := n.hub.letGo }
  | .strike id => { n with hub := (n.hub.strike id).1 }
  | .accept shared => (n.accept shared).1
  | .bring k a => n.bring k a
  | .link k unwritable => n.act k fun h c => (h, { c with role.unwritable := unwritable })
  | .serve k => n.act k Connection.serve
  | .send k i => n.act k (Connection.sendAt i)
  | .call k method args named => (n.call k method args named).1
  | .collect k j => (n.changeCaller k fun c => ((c.collect j).1, (c.collect j).2, [])).1
  | .expire k j => (n.changeCaller k fun c => c.expire j).1
  | .release k j => (n.changeCaller k fun c => (c.release j, (), [])).1
  | .terminate k => (n.changeCaller k Caller.terminate).1
  | .clone k => (n.changeCaller k fun c => (c.retain, (), [])).1
  | .drop k => n.dropCaller k

/-- The service after a run. -/
def after (E : Engine σ) (n : Network σ Socket) (moves : List Move) : Network σ Socket :=
  Run.after (move E) n moves

/-- Whether a move makes no requests, closes no session and does not touch the directory, except by
    way of a connection. -/
def Move.isOrderly : Move → Bool
  | .command (.request ..) | .command (.close _) | .strike _ => false
  | _ => true

/-- Whether a move accepts a connection. -/
def Move.accepts : Move → Bool
  | .accept _ => true
  | _ => false

/-- How many connections a run accepts. -/
def acceptances (moves : List Move) : Nat :=
  moves.countP Move.accepts

@[simp] theorem acceptances_concat (moves : List Move) (m : Move) :
    acceptances (moves ++ [m]) = acceptances moves + if m.accepts then 1 else 0 := by
  simp [acceptances, List.countP_append, List.countP_cons]

/-- What a move does that concerns the hub alone. -/
def Move.aside? : Move → Option Hub.Move
  | .drive => some .drive
  | .command c => some (.command c)
  | .retain => some .retain
  | .letGo => some .letGo
  | .strike id => some (.strike id)
  | _ => none

/-- The connection whose caller makes a move on behalf of a holder, of the caller or of a ticket. -/
def Move.owned? : Move → Option (Nat × Caller.Move)
  | .call k method args named => some (k, .issue true method args named)
  | .collect k j => some (k, .collect j)
  | .expire k j => some (k, .expire j)
  | .release k j => some (k, .release j)
  | .terminate k => some (k, .terminate)
  | .clone k => some (k, .retain)
  | .drop k => some (k, .letGo)
  | _ => none

/-- The connection that a move is about. -/
def Move.connection? : Move → Option Nat
  | .bring k _ | .link k _ | .serve k | .send k _ => some k
  | m => m.owned?.map (·.1)

theorem connection?_of_owned {m : Move} {k : Nat} {a : Caller.Move} (hm : m.owned? = some (k, a)) :
    m.connection? = some k := by
  cases m <;> simp_all [Move.owned?, Move.connection?]

theorem connection?_of_aside {m : Move} {a : Hub.Move} (hm : m.aside? = some a) :
    m.connection? = none ∧ m.accepts = false := by
  cases m <;> simp_all [Move.aside?, Move.connection?, Move.owned?, Move.accepts]

theorem accepts_of_connection? {m : Move} {k : Nat} (hm : m.connection? = some k) :
    m.accepts = false := by
  cases m <;> simp_all [Move.owned?, Move.connection?, Move.accepts]

/-! ## What moves do -/

/-- What a move does to the connection that it is about, and to the hub. -/
inductive Changed (h : Hub σ) (c : Connection) : Move → List Hub.Move → Connection → Prop where
  | turn {k : Nat} {L : List Hub.Move} {c' : Connection} (turn : c.Turn h L c') :
    Changed h c (.serve k) L c'
  | unsent {k i : Nat} (none_there : c.caller.sends[i]? = none) : Changed h c (.send k i) [] c
  | sent {k i : Nat} {send : Send} (looping : c.role.looping)
    (found : c.caller.sends[i]? = some send) :
    Changed h c (.send k i) [] { c with
      caller := { c.caller with sends := c.caller.sends.eraseIdx i }
      role.outbound := c.role.outbound ++ [send.payload] }
  /-- The send is not carried out any more. -/
  | turnedAway {k i : Nat} {send : Send} (past : c.role.looping = false)
    (found : c.caller.sends[i]? = some send) {caller : Caller} {records : List Record}
    (told : ({ c.caller with sends := c.caller.sends.eraseIdx i } : Caller).sendEnded send.id
      (.error .closed) = (caller, records)) :
    Changed h c (.send k i) [.log records] { c with caller }
  | owned {m : Move} {k : Nat} {a : Caller.Move} (hm : m.owned? = some (k, a)) :
    Changed h c m [.log (c.caller.act a).2] { c with caller := c.caller.move a }
  | brought {k : Nat} (a : Arrival) :
    Changed h c (.bring k a) [] { c with role.inbound := c.role.inbound ++ [a] }
  | linked {k : Nat} (unwritable : Option String) :
    Changed h c (.link k unwritable) [] { c with role.unwritable := unwritable }

/-- What the moves of a caller keep, whatever its sends are, is kept. -/
theorem Changed.caller_induction {motive : Caller → Prop} {h : Hub σ} {c c' : Connection} {m : Move}
    {L : List Hub.Move} (change : Changed h c m L c')
    (sends : ∀ (d : Caller) (sends : List Send), motive d → motive { d with sends })
    (move : ∀ (d : Caller) (a : Caller.Move), motive d → motive (d.move a))
    (before : motive c.caller) : motive c'.caller := by
  cases change with
  | turn turn =>
    cases turn with
    | @told bytes rest reads => exact move _ (.receive bytes) before
    | ended outbound inbound result looping leaving =>
      exact move _ .letGo (move _ .terminate before)
    | nothing | delivered | carried | asked | passed => exact before
  | sent looping found => exact sends _ _ before
  | @turnedAway k i send past found caller records told =>
    have gone : motive { c.caller with sends := c.caller.sends.eraseIdx i } := sends _ _ before
    have after := move _ (.sendEnded send.id (.error .closed)) gone
    rw [Caller.move, Caller.act, told] at after
    exact after
  | owned hm => exact move _ _ before
  | unsent | brought | linked => exact before

/-- A connection that was just accepted. -/
def fresh (h : Hub σ) (shared : Bool) : Connection :=
  { caller := { holders := if shared then 2 else 1 }
    session := h.sessions.size
    mailbox := h.mailboxes.size
    role := {} }

/-- What a move does to a service, where `L` is what it does to the hub. -/
inductive Moved (E : Engine σ) (n n' : Network σ Socket) (m : Move) : List Hub.Move → Prop where
  | aside {a : Hub.Move} (hm : m.aside? = some a) (hub : n'.hub = n.hub.move E a)
    (members : n'.members = n.members) : Moved E n n' m [a]
  | accepted {shared : Bool} (hm : m = .accept shared) (r : Record)
    (hub : n'.hub = n.hub.openMailbox.1.note r)
    (members : n'.members = n.members.push (fresh n.hub shared)) :
    Moved E n n' m [.openMailbox, .log [r]]
  | absent {k : Nat} (hm : m.connection? = some k) (vacant : n.members[k]? = none)
    (hub : n'.hub = n.hub) (members : n'.members = n.members) : Moved E n n' m []
  | changed {k : Nat} {c c' : Connection} {L : List Hub.Move} (hm : m.connection? = some k)
    (found : n.members[k]? = some c) (change : Changed n.hub c m L c')
    (hub : n'.hub = Hub.after E n.hub L) (members : n'.members = n.members.set! k c') :
    Moved E n n' m L

section Moved

variable {E : Engine σ} {n : Network σ Socket}

theorem sendAt_changed (k i : Nat) (h : Hub σ) (c : Connection) :
    ∃ L c', Changed h c (.send k i) L c' ∧ c.sendAt i h = (Hub.after E h L, c') := by
  unfold Connection.sendAt
  cases found : c.caller.sends[i]? with
  | none => exact ⟨[], c, .unsent found, rfl⟩
  | some send =>
    dsimp only
    split
    · next looping => exact ⟨_, _, .sent looping found, rfl⟩
    · next past => exact ⟨_, _, .turnedAway (by simpa using past) found rfl, rfl⟩

/-- A connection takes a step. -/
theorem moved_act (m : Move) {k : Nat} (hm : m.connection? = some k)
    {step : Hub σ → Connection → Hub σ × Connection}
    (does : ∀ h c, ∃ L c', Changed h c m L c' ∧ step h c = (Hub.after E h L, c')) :
    ∃ L, Moved E n (n.act k step) m L := by
  cases found : n.members[k]? with
  | none =>
    rw [Network.act_of_none found]
    exact ⟨[], .absent hm found rfl rfl⟩
  | some c =>
    obtain ⟨L, c', change, same⟩ := does n.hub c
    rw [Network.act_of_some found, same]
    exact ⟨L, .changed hm found change rfl rfl⟩

/-- The caller of a connection is changed. -/
theorem moved_changeCaller {α : Type} {m : Move} {k : Nat} {a : Caller.Move}
    (hm : m.owned? = some (k, a)) {change : Caller → Caller × α × List Record}
    (does : ∀ c, (change c).1 = c.move a ∧ (change c).2.2 = (c.act a).2) {n' : Network σ Socket}
    (hub : n'.hub = (n.changeCaller k change).1.hub)
    (members : n'.members = (n.changeCaller k change).1.members) : ∃ L, Moved E n n' m L := by
  have about := connection?_of_owned hm
  cases found : n.members[k]? with
  | none =>
    rw [Network.changeCaller_of_none found] at hub members
    exact ⟨[], .absent about found hub members⟩
  | some c =>
    obtain ⟨caller, records⟩ := does c.caller
    rw [Network.changeCaller_of_some found, records] at hub
    rw [Network.changeCaller_of_some found, caller] at members
    exact ⟨_, .changed about found (.owned hm) hub members⟩

theorem moved (E : Engine σ) (n : Network σ Socket) (m : Move) :
    ∃ L, Moved E n (move E n m) m L := by
  cases m with
  | drive => exact ⟨_, .aside rfl rfl rfl⟩
  | command c => exact ⟨_, .aside rfl rfl rfl⟩
  | retain => exact ⟨_, .aside rfl rfl rfl⟩
  | letGo => exact ⟨_, .aside rfl rfl rfl⟩
  | strike id => exact ⟨_, .aside rfl rfl rfl⟩
  | accept shared => exact ⟨_, .accepted rfl _ rfl rfl⟩
  | bring k a => exact moved_act (.bring k a) rfl fun h c => ⟨_, _, .brought a, rfl⟩
  | link k unwritable =>
    exact moved_act (.link k unwritable) rfl fun h c => ⟨_, _, .linked unwritable, rfl⟩
  | serve k =>
    have turns : ∀ (h : Hub σ) (c : Connection),
        ∃ L c', Changed h c (.serve k) L c' ∧ c.serve h = (Hub.after E h L, c') := by
      intro h c
      obtain ⟨L, c', turn, same⟩ := Connection.serve_turn E h c
      exact ⟨L, c', .turn turn, same⟩
    exact moved_act (.serve k) rfl turns
  | send k i => exact moved_act (.send k i) rfl (sendAt_changed k i)
  | call k method args named =>
    obtain ⟨hub, members, -⟩ := n.call_eq k method args named
    exact moved_changeCaller rfl (fun _ => ⟨rfl, rfl⟩) hub members
  | collect k j => exact moved_changeCaller rfl (fun _ => ⟨rfl, rfl⟩) rfl rfl
  | expire k j => exact moved_changeCaller rfl (fun _ => ⟨rfl, rfl⟩) rfl rfl
  | release k j => exact moved_changeCaller rfl (fun _ => ⟨rfl, rfl⟩) rfl rfl
  | terminate k => exact moved_changeCaller rfl (fun _ => ⟨rfl, rfl⟩) rfl rfl
  | clone k => exact moved_changeCaller rfl (fun _ => ⟨rfl, rfl⟩) rfl rfl
  | drop k =>
    have letGo : ∀ c : Caller, c.letGo.1 = c.move .letGo ∧ c.letGo.2 = (c.act .letGo).2 :=
      fun _ => ⟨rfl, rfl⟩
    exact moved_changeCaller rfl letGo rfl rfl

end Moved

namespace Moved

variable {E : Engine σ} {n n' : Network σ Socket} {m : Move} {L : List Hub.Move}

/-- What becomes of the hub. -/
theorem hub_eq (v : Moved E n n' m L) : n'.hub = Hub.after E n.hub L := by
  cases v with
  | aside hm hub members => exact hub
  | accepted hm r hub members => exact hub
  | absent hm vacant hub members => exact hub
  | changed hm found change hub members => exact hub

theorem size_eq (v : Moved E n n' m L) :
    n'.members.size = n.members.size + if m.accepts then 1 else 0 := by
  cases v with
  | aside hm hub members =>
    rw [members, (connection?_of_aside hm).2]
    rfl
  | accepted hm r hub members =>
    rw [members, Array.size_push, hm]
    rfl
  | absent hm vacant hub members =>
    rw [members, accepts_of_connection? hm]
    rfl
  | changed hm found change hub members =>
    rw [members, accepts_of_connection? hm]
    exact Array.size_setIfInBounds

/-- Where a connection comes from: it is just accepted, or it was there before, and if the move is
    not about it, then as it is. -/
theorem member_cases (v : Moved E n n' m L) {k : Nat} {c' : Connection}
    (found' : n'.members[k]? = some c') :
    (m.connection? ≠ some k ∧ n.members[k]? = some c') ∨
    (∃ shared, m = .accept shared ∧ k = n.members.size ∧ c' = fresh n.hub shared) ∨
    (m.connection? = some k ∧ ∃ c, n.members[k]? = some c ∧ Changed n.hub c m L c') := by
  cases v with
  | aside hm hub members =>
    rw [members] at found'
    exact .inl ⟨by simp [(connection?_of_aside hm).1], found'⟩
  | accepted hm r hub members =>
    subst hm
    rw [members, Array.getElem?_push] at found'
    split at found'
    · next last => exact .inr (.inl ⟨_, rfl, last, (Option.some.inj found').symm⟩)
    · exact .inl ⟨nofun, found'⟩
  | @absent j hm vacant hub members =>
    rw [members] at found'
    refine .inl ⟨?_, found'⟩
    rw [hm]
    rintro same
    cases same
    rw [vacant] at found'
    cases found'
  | @changed j c d L hm found change hub members =>
    rw [members, Network.members_set found] at found'
    split at found'
    · next same =>
      subst same
      cases found'
      exact .inr (.inr ⟨hm, c, found, change⟩)
    · next other =>
      refine .inl ⟨?_, found'⟩
      rw [hm]
      exact fun same => other (Option.some.inj same)

/-- What becomes of a connection: it is still there, and if the move is not about it, then as it
    was. -/
theorem member (v : Moved E n n' m L) {k : Nat} {c : Connection} (found : n.members[k]? = some c) :
    ∃ c', n'.members[k]? = some c' ∧
      (m.connection? ≠ some k ∧ c' = c ∨ m.connection? = some k ∧ Changed n.hub c m L c') := by
  have inside : k < n.members.size := (Array.getElem?_eq_some_iff.mp found).1
  cases v with
  | aside hm hub members =>
    exact ⟨c, members ▸ found, .inl ⟨by simp [(connection?_of_aside hm).1], rfl⟩⟩
  | accepted hm r hub members =>
    subst hm
    refine ⟨c, ?_, .inl ⟨nofun, rfl⟩⟩
    rw [members, Array.getElem?_push, if_neg (Nat.ne_of_lt inside), found]
  | @absent j hm vacant hub members =>
    refine ⟨c, members ▸ found, .inl ⟨?_, rfl⟩⟩
    rw [hm]
    intro same
    cases same
    rw [vacant] at found
    cases found
  | @changed j d d' L hm there change hub members =>
    by_cases same : j = k
    · subst same
      rw [there] at found
      cases found
      refine ⟨d', ?_, .inr ⟨hm, change⟩⟩
      rw [members, Network.members_set there, if_pos rfl]
    · refine ⟨c, ?_, .inl ⟨?_, rfl⟩⟩
      · rw [members, Network.members_set there, if_neg same, found]
      · rw [hm]
        exact fun both => same (Option.some.inj both)

/-- No connection is touched but the one that a move is about. -/
theorem member_of_other (v : Moved E n n' m L) {j k : Nat} (about : m.connection? = some k)
    (other : j ≠ k) : n'.members[j]? = n.members[j]? := by
  cases v with
  | aside hm hub members => rw [members]
  | accepted hm r hub members =>
    subst hm
    cases about
  | absent hm vacant hub members => rw [members]
  | changed hm found change hub members =>
    cases hm.symm.trans about
    rw [members, Network.members_set found, if_neg (Ne.symm other)]

end Moved

theorem size_after (E : Engine σ) (engine : σ) (mode : Mode) (moves : List Move) :
    (after E (start engine mode) moves).members.size = acceptances moves := by
  refine Run.after_induction (Service.move E) (motive := fun moves n =>
    n.members.size = acceptances moves) (start engine mode) rfl (fun moves m size => ?_) moves
  obtain ⟨L, v⟩ := moved E (after E (start engine mode) moves) m
  rw [acceptances_concat, ← size]
  exact v.size_eq

/-! ## What happens to one connection -/

/-- A move that is about some connection, and what it finds. -/
structure Event (σ : Type) where
  hub : Hub σ
  connection : Connection
  move : Move

/-- What a move is for connection `k`. -/
def Move.event? (k : Nat) (n : Network σ Socket) (m : Move) : Option (Event σ) :=
  if m.connection? = some k then n.members[k]?.map fun c => ⟨n.hub, c, m⟩ else none

/-- What happens to connection `k` in a run, in order. -/
def history (E : Engine σ) (k : Nat) (n : Network σ Socket) (moves : List Move) : List (Event σ) :=
  Run.seen (move E) (fun n m => (m.event? k n).toList) n moves

section History

variable {E : Engine σ} {k : Nat}

theorem event?_of_other {n : Network σ Socket} {m : Move} (other : m.connection? ≠ some k) :
    m.event? k n = none :=
  if_neg other

theorem event?_of_absent {n : Network σ Socket} (vacant : n.members[k]? = none) (m : Move) :
    m.event? k n = none := by
  unfold Move.event?
  rw [vacant, Option.map_none, ite_self]

theorem event?_of_some {n : Network σ Socket} {m : Move} {c : Connection}
    (about : m.connection? = some k) (found : n.members[k]? = some c) :
    m.event? k n = some ⟨n.hub, c, m⟩ := by
  unfold Move.event?
  rw [if_pos about, found]
  rfl

@[simp] theorem history_concat (n : Network σ Socket) (moves : List Move) (m : Move) :
    history E k n (moves ++ [m]) = history E k n moves ++ (m.event? k (after E n moves)).toList :=
  Run.seen_concat ..

/-- An event is a move of the run. -/
theorem mem_history {n : Network σ Socket} {moves : List Move} {e : Event σ}
    (happens : e ∈ history E k n moves) :
    ∃ before rest, moves = before ++ e.move :: rest ∧ e.hub = (after E n before).hub ∧
      (after E n before).members[k]? = some e.connection := by
  induction moves generalizing n with
  | nil => cases happens
  | cons m moves ih =>
    rw [history, Run.seen_cons, List.mem_append, Option.mem_toList] at happens
    rcases happens with now | later
    · unfold Move.event? at now
      split at now
      · obtain ⟨c, found, rfl⟩ := Option.map_eq_some_iff.mp now
        exact ⟨[], moves, rfl, rfl, found⟩
      · cases now
    · obtain ⟨before, rest, rfl, hub, found⟩ := ih later
      exact ⟨m :: before, rest, rfl, hub, found⟩

/-- Nothing has happened to a connection that was not accepted yet. -/
theorem history_of_absent {n : Network σ Socket} {moves : List Move}
    (vacant : (after E n moves).members[k]? = none) : history E k n moves = [] := by
  revert vacant
  refine Run.after_induction (Service.move E) (motive := fun moves n' => n'.members[k]? = none →
    history E k n moves = []) n (fun _ => rfl) ?_ moves
  intro moves m ih vacant
  have before : (after E n moves).members[k]? = none := by
    cases found : (after E n moves).members[k]? with
    | none => rfl
    | some c =>
      obtain ⟨L, v⟩ := moved E (after E n moves) m
      obtain ⟨c', found', -⟩ := v.member found
      cases vacant.symm.trans found'
  rw [history_concat, ih before, event?_of_absent before]
  rfl

/-- A law of a connection and of what has happened to it holds in every run if it holds of one that
    was just accepted and every move that is about the connection keeps it. -/
theorem history_induction {motive : List (Event σ) → Connection → Prop} (engine : σ) (mode : Mode)
    (accepted : ∀ (h : Hub σ) shared, motive [] (fresh h shared))
    (changed : ∀ past h c m L c', m.connection? = some k → Changed h c m L c' → motive past c →
      motive (past ++ [⟨h, c, m⟩]) c') (moves : List Move) {c : Connection}
    (found : (after E (start engine mode) moves).members[k]? = some c) :
    motive (history E k (start engine mode) moves) c := by
  revert c
  refine Run.after_induction (Service.move E) (motive := fun moves n => ∀ {c : Connection},
    n.members[k]? = some c → motive (history E k (start engine mode) moves) c)
    (start engine mode) ?_ ?_ moves
  · intro c found
    cases found
  · intro moves m ih c' found'
    obtain ⟨L, v⟩ := moved E (after E (start engine mode) moves) m
    rw [history_concat]
    rcases v.member_cases found' with ⟨other, found⟩ | ⟨shared, rfl, rfl, rfl⟩
      | ⟨about, c, found, change⟩
    · rw [event?_of_other other, Option.toList_none, List.append_nil]
      exact ih found
    · have vacant : (after E (start engine mode) moves).members[
          (after E (start engine mode) moves).members.size]? = none :=
        Array.getElem?_eq_none (Nat.le_refl _)
      rw [history_of_absent vacant, event?_of_absent vacant]
      exact accepted _ shared
    · rw [event?_of_some about found]
      exact changed _ _ c m L c' about change (ih found)

end History

end Service

end SessionHub
