import SessionHub.Network.Client
import SessionHub.Proofs.Caller.Fate
import SessionHub.Proofs.Hub.Traffic
import SessionHub.Proofs.Network.Members

set_option autoImplicit false

/-! # Runs of a network of clients

The driver, the sends of each client, its forwarding, and the holders of clients, tickets and
handles of the hub take their steps in any order. A send that was spawned later may overtake one
that was spawned earlier (`Client.sendAt`).

A network is live while its driver runs and no client is terminated. That is over for good when it
is over (`live_of_move`), so that a run which ends in a live network was in one all along. -/

namespace SessionHub

namespace Client

variable {σ : Type}

theorem caller_tidy (h : Hub σ) (c : Client) : (c.tidy h).2.caller = c.caller := by
  unfold tidy
  split <;> rfl

theorem tidy_of_held (h : Hub σ) {c : Client} (held : c.caller.holders ≠ 0) :
    c.tidy h = (h, c) := by
  simp [tidy, held]

theorem isRunning_tidy (h : Hub σ) (c : Client) : (c.tidy h).1.isRunning = h.isRunning := by
  unfold tidy
  split
  · exact h.isRunning_close c.session
  · rfl

theorem isRunning_sendAt (i : Nat) (h : Hub σ) (c : Client) :
    (c.sendAt i h).1.isRunning = h.isRunning := by
  unfold sendAt
  split
  · rfl
  · exact h.isRunning_sendPayload c.session _

theorem closed_sendAt {c : Client} (past : c.caller.closed) (i : Nat) (h : Hub σ) :
    (c.sendAt i h).2.caller.closed := by
  unfold sendAt
  split
  · exact past
  · next send _ =>
    have past' : ({ c.caller with sends := c.caller.sends.eraseIdx i } : Caller).closed := past
    exact Caller.closed_move past' (.sendEnded send.id (h.sendPayload c.session send.payload).2)

theorem isRunning_read {h h' : Hub σ} {k : Nat} {bytes : Bytes}
    (read : h.read? k = some (bytes, h')) : h'.isRunning = h.isRunning := by
  unfold Hub.read? at read
  split at read
  · cases read
  · cases read
    rfl

theorem isRunning_forward (h : Hub σ) (c : Client) : (c.forward h).1.isRunning = h.isRunning := by
  unfold forward
  split
  · rfl
  · split
    · next bytes h' read =>
      have same := isRunning_read read
      split <;> exact same
    · split <;> rfl

theorem closed_forward {c : Client} (past : c.caller.closed) (h : Hub σ) :
    (c.forward h).2.caller.closed := by
  unfold forward
  split
  · exact past
  · split
    · next bytes h' read =>
      split
      · exact past
      · exact Caller.closed_move past (.receive bytes)
    · split <;> exact past

end Client

namespace Network

variable {σ : Type}

/-! ## Moves -/

/-- What can happen to a network of clients. -/
inductive Move where
  /-- The driver takes a step. -/
  | drive
  /-- A poll is sent through a handle of the hub. -/
  | poll
  /-- A shutdown is sent through a handle of the hub. -/
  | shutdown
  /-- One more holds a handle of the hub. -/
  | retain
  /-- One less holds a handle of the hub. -/
  | letGo
  | connect
  /-- A call of client `k` is issued. -/
  | call (k : Nat) (method : String) (args : List Json) (named : List (String × Json))
  /-- The send at place `i` of client `k` is carried out. -/
  | send (k i : Nat)
  /-- A delivery is brought to client `k`. -/
  | forward (k : Nat)
  /-- Ticket `j` of client `k` is asked for its result. -/
  | collect (k j : Nat)
  /-- The wait at ticket `j` of client `k` times out. -/
  | expire (k j : Nat)
  /-- Ticket `j` of client `k` is given up. -/
  | release (k j : Nat)
  | terminate (k : Nat)
  /-- One more holds client `k`. -/
  | clone (k : Nat)
  /-- One less holds client `k`. -/
  | drop (k : Nat)

/-- The network after a move. -/
def move (E : Engine σ) (n : Network σ Local) : Move → Network σ Local
  | .drive => n.drive E
  | .poll => { n with hub := (n.hub.send .poll).1 }
  | .shutdown => { n with hub := (n.hub.send .shutdown).1 }
  | .retain => { n with hub := n.hub.retain }
  | .letGo => { n with hub := n.hub.letGo }
  | .connect => (n.connect true).1
  | .call k method args named => (n.call k method args named).1
  | .send k i => (n.act k (Client.sendAt i)).act k Client.tidy
  | .forward k => n.act k Client.forward
  | .collect k j => (n.changeCaller k fun c => ((c.collect j).1, (c.collect j).2, [])).1
  | .expire k j => (n.changeCaller k fun c => c.expire j).1
  | .release k j => (n.changeCaller k fun c => (c.release j, (), [])).1
  | .terminate k => (n.changeCaller k Caller.terminate).1
  | .clone k => (n.changeCaller k fun c => (c.retain, (), [])).1
  | .drop k => n.dropClient k

/-- The network after a run. -/
def after (E : Engine σ) (n : Network σ Local) (moves : List Move) : Network σ Local :=
  Run.after (move E) n moves

/-- The client whose caller makes a move on behalf of a holder, of the client or of a ticket. -/
def Move.owned? : Move → Option (Nat × Caller.Move)
  | .call k method args named => some (k, .issue true method args named)
  | .collect k j => some (k, .collect j)
  | .expire k j => some (k, .expire j)
  | .release k j => some (k, .release j)
  | .terminate k => some (k, .terminate)
  | .clone k => some (k, .retain)
  | .drop k => some (k, .letGo)
  | _ => none

/-- The client that a move is about. -/
def Move.client? : Move → Option Nat
  | .send k _ | .forward k => some k
  | m => m.owned?.map (·.1)

/-! ## What is seen of a run -/

/-- Whether a move connects a client. -/
def Move.connects : Move → Bool
  | .connect => true
  | _ => false

/-- Whether a move issues a call of client `k`. -/
def Move.calls (k : Nat) : Move → Bool
  | .call j .. => j = k
  | _ => false

/-- How many clients a run connects. -/
def connections (moves : List Move) : Nat :=
  moves.countP Move.connects

/-- How many calls of client `k` a run issues. -/
def callings (k : Nat) (moves : List Move) : Nat :=
  moves.countP (Move.calls k)

@[simp] theorem connections_concat (moves : List Move) (m : Move) :
    connections (moves ++ [m]) = connections moves + if m.connects then 1 else 0 := by
  simp [connections, List.countP_append, List.countP_cons]

@[simp] theorem callings_concat (k : Nat) (moves : List Move) (m : Move) :
    callings k (moves ++ [m]) = callings k moves + if m.calls k then 1 else 0 := by
  simp [callings, List.countP_append, List.countP_cons]

/-- The arguments of a call as they are sent. -/
def allArgs (args : List Json) (named : List (String × Json)) : List Json :=
  if named.isEmpty then args else args ++ [.object named]

/-- What a move adds to the exchanges of client `k`, where `f` says what is answered: a call of it
    that is accepted. -/
def Move.exchange? (f : String → List Json → Json) (k : Nat) (n : Network σ Local) :
    Move → Option Exchange
  | .call j method args named =>
    if j = k then
      n.members[k]?.bind fun c =>
        ((Caller.Move.issue true method args named).accepted? c.caller).map fun id =>
          ⟨id, f method (allArgs args named)⟩
    else none
  | _ => none

/-- The exchanges of client `k` in a run, in the order of the calls. -/
def exchanges (E : Engine σ) (f : String → List Json → Json) (k : Nat) (n : Network σ Local)
    (moves : List Move) : List Exchange :=
  Run.seen (move E) (fun n m => (m.exchange? f k n).toList) n moves

theorem client?_of_owned {m : Move} {k : Nat} {a : Caller.Move} (hm : m.owned? = some (k, a)) :
    m.client? = some k := by
  cases m <;> simp_all [Move.owned?, Move.client?]

theorem takesIdentity_of_owned {m : Move} {k : Nat} {a : Caller.Move}
    (hm : m.owned? = some (k, a)) : a.takesIdentity = m.calls k := by
  cases m <;> simp only [Move.owned?, reduceCtorEq, Option.some.injEq, Prod.mk.injEq] at hm <;>
    obtain ⟨rfl, rfl⟩ := hm <;> simp [Move.calls, Caller.Move.takesIdentity]

/-! ## Moves of members -/

section Members

variable {E : Engine σ} {n : Network σ Local} {k : Nat} {c : Client}

/-- Clients are connected, and never go. -/
theorem size_move (n : Network σ Local) (m : Move) :
    (n.move E m).members.size = n.members.size + if m.connects then 1 else 0 := by
  cases m with
  | connect => exact Array.size_push _
  | call k method args named =>
    rw [move, (n.call_eq k method args named).2.1]
    exact size_changeCaller n k _
  | send k i => exact (size_act _ k _).trans (size_act n k _)
  | forward k => exact size_act n k _
  | drop k =>
    exact (size_act _ k _).trans (size_changeCaller n k fun c => (c.letGo.1, (), c.letGo.2))
  | collect k j => exact size_changeCaller n k _
  | expire k j => exact size_changeCaller n k _
  | release k j => exact size_changeCaller n k _
  | terminate k => exact size_changeCaller n k _
  | clone k => exact size_changeCaller n k _
  | _ => rfl

/-- A move that is not about a client leaves it as it is. -/
theorem member_of_other {m : Move} (other : m.client? ≠ some k) (hc : n.members[k]? = some c) :
    (n.move E m).members[k]? = some c := by
  cases m <;> simp only [Move.client?, Move.owned?, Option.map_some, Option.map_none, ne_eq,
    Option.some.injEq, reduceCtorEq, not_false_eq_true] at other
  case connect =>
    have inside : k < n.members.size := (Array.getElem?_eq_some_iff.mp hc).1
    show (n.members.push _)[k]? = _
    rw [Array.getElem?_push, if_neg (Nat.ne_of_lt inside), hc]
  case call j method args named =>
    rw [move, (n.call_eq j method args named).2.1, member_changeCaller_of_ne other]
    exact hc
  case send j i => rwa [move, member_act_of_ne other, member_act_of_ne other]
  case forward j => rwa [move, member_act_of_ne other]
  case drop j => rwa [move, dropClient, member_act_of_ne other, member_changeCaller_of_ne other]
  case drive | poll | shutdown | retain | letGo => exact hc
  all_goals rwa [move, member_changeCaller_of_ne other]

/-- Where there is no client, no move is made of it. -/
theorem move_of_absent {m : Move} {a : Caller.Move} (hm : m.owned? = some (k, a))
    (vacant : n.members[k]? = none) :
    (n.move E m).hub = n.hub ∧ (n.move E m).members = n.members := by
  cases m <;> simp only [Move.owned?, reduceCtorEq, Option.some.injEq, Prod.mk.injEq] at hm <;>
    obtain ⟨rfl, rfl⟩ := hm
  case call j method args named =>
    obtain ⟨hub, members, -⟩ := n.call_eq j method args named
    rw [changeCaller_of_none vacant] at hub members
    exact ⟨hub, members⟩
  case drop j =>
    simp only [move, dropClient, changeCaller_of_none vacant, act_of_none vacant]
    exact ⟨trivial, trivial⟩
  all_goals
    simp only [move, changeCaller_of_none vacant]
    exact ⟨trivial, trivial⟩

theorem caller_of_owned {m : Move} {a : Caller.Move} (hm : m.owned? = some (k, a))
    (hc : n.members[k]? = some c) :
    ∃ c', (n.move E m).members[k]? = some c' ∧ c'.caller = c.caller.move a := by
  have changed : ∀ {α : Type} (change : Caller → Caller × α × List Record),
      (n.changeCaller k change).1.members[k]? =
        some { c with caller := (change c.caller).1 } := by
    intro α change
    rw [changeCaller_of_some hc]
    exact (members_set hc _ k).trans (if_pos rfl)
  cases m <;> simp only [Move.owned?, reduceCtorEq, Option.some.injEq, Prod.mk.injEq] at hm <;>
    obtain ⟨rfl, rfl⟩ := hm
  case call j method args named =>
    obtain ⟨-, members, -⟩ := n.call_eq j method args named
    rw [move, members]
    exact ⟨_, changed _, rfl⟩
  case drop j =>
    have left := changed fun c => (c.letGo.1, (), c.letGo.2)
    simp only [move, dropClient]
    rw [act_of_some left]
    exact ⟨_, (members_set left _ j).trans (if_pos rfl), Client.caller_tidy _ _⟩
  all_goals exact ⟨_, changed _, rfl⟩

/-- A move of a client by a holder of it, after which it is still held. -/
theorem move_of_owned {m : Move} {a : Caller.Move} (hm : m.owned? = some (k, a))
    (hc : n.members[k]? = some c) (held : (c.caller.move a).holders ≠ 0) :
    (n.move E m).hub = n.hub.noteAll (c.caller.act a).2 ∧
      (n.move E m).members = n.members.set! k { c with caller := c.caller.move a } := by
  cases m <;> simp only [Move.owned?, reduceCtorEq, Option.some.injEq, Prod.mk.injEq] at hm <;>
    obtain ⟨rfl, rfl⟩ := hm
  case call j method args named =>
    obtain ⟨hub, members, -⟩ := n.call_eq j method args named
    rw [changeCaller_of_some hc] at hub members
    exact ⟨hub, members⟩
  case drop j =>
    have left := members_set hc { c with caller := c.caller.move .letGo } j
    rw [if_pos rfl] at left
    simp only [move, dropClient, changeCaller_of_some hc]
    rw [act_of_some left, Client.tidy_of_held _ held]
    refine ⟨rfl, ?_⟩
    simp only [Array.set!_eq_setIfInBounds, Array.setIfInBounds_setIfInBounds]
  all_goals
    simp only [move, changeCaller_of_some hc]
    exact ⟨rfl, rfl⟩

end Members

/-! ## Live networks -/

/-- Whether the driver runs and no client is terminated. -/
def Live (n : Network σ Local) : Prop :=
  n.hub.isRunning ∧ ∀ (k : Nat) (c : Client), n.members[k]? = some c → c.caller.closed = false

section Live

variable {E : Engine σ} {n : Network σ Local}

/-- A network is live if one that comes from it is whose driver runs only if this one's does and in
    which the callers that were terminated are so still. -/
theorem Live.of_later {n' : Network σ Local} (live : n'.Live)
    (running : n'.hub.isRunning → n.hub.isRunning)
    (closed : ∀ (k : Nat) (c : Client), n.members[k]? = some c → c.caller.closed →
      ∃ c', n'.members[k]? = some c' ∧ c'.caller.closed) : n.Live := by
  refine ⟨running live.1, fun k c hc => ?_⟩
  rw [← Bool.not_eq_true]
  intro past
  obtain ⟨c', hc', past'⟩ := closed k c hc past
  rw [live.2 k c' hc'] at past'
  cases past'

theorem Live.of_act {k : Nat} {step : Hub σ → Client → Hub σ × Client} (live : (n.act k step).Live)
    (running : ∀ h c, (step h c).1.isRunning = h.isRunning)
    (closed : ∀ h c, c.caller.closed → (step h c).2.caller.closed) : n.Live := by
  cases hc : n.members[k]? with
  | none =>
    rw [act_of_none hc] at live
    exact live
  | some c =>
    rw [act_of_some hc] at live
    refine live.of_later (by rw [running]; exact id) fun j d hd past => ?_
    simp only [members_set hc]
    by_cases hkj : k = j
    · subst hkj
      rw [hc] at hd
      cases hd
      exact ⟨_, if_pos rfl, closed _ _ past⟩
    · exact ⟨d, by rw [if_neg hkj]; exact hd, past⟩

theorem Live.of_changeCaller {α : Type} {k : Nat} {change : Caller → Caller × α × List Record}
    (live : (n.changeCaller k change).1.Live) (closed : ∀ c, c.closed → (change c).1.closed) :
    n.Live := by
  cases hc : n.members[k]? with
  | none =>
    rw [changeCaller_of_none hc] at live
    exact live
  | some c =>
    -- to change the caller is to act without use of the hub
    have acted : (n.act k fun h c =>
        (h.noteAll (change c.caller).2.2, { c with caller := (change c.caller).1 })).Live := by
      rw [changeCaller_of_some hc] at live
      rw [act_of_some hc]
      exact live
    exact acted.of_act (fun _ _ => rfl) fun _ _ past => closed _ past

/-- What is over does not come back. -/
theorem live_of_move {m : Move} (live : (n.move E m).Live) : n.Live := by
  have apart : m.client? = none → ((n.move E m).hub.isRunning → n.hub.isRunning) → n.Live := by
    intro none running
    exact live.of_later running fun k c hc past => ⟨c, member_of_other (by simp [none]) hc, past⟩
  have tidied : ∀ {n : Network σ Local} {k : Nat}, (n.act k Client.tidy).Live → n.Live :=
    fun live => live.of_act Client.isRunning_tidy fun h c past => by rwa [Client.caller_tidy]
  cases m with
  | drive => exact apart rfl Hub.running_of_step
  | poll => exact apart rfl (by rw [move, Hub.isRunning_send]; exact id)
  | shutdown => exact apart rfl (by rw [move, Hub.isRunning_send]; exact id)
  | retain => exact apart rfl id
  | letGo => exact apart rfl id
  | connect => exact apart rfl id
  | call k method args named =>
    obtain ⟨hub, members, -⟩ := n.call_eq k method args named
    have issued : (n.changeCaller k fun c => c.issue true method args named).1.Live := by
      unfold Live at live ⊢
      rw [← hub, ← members]
      exact live
    exact issued.of_changeCaller fun c past => Caller.closed_move past (.issue true method args named)
  | send k i => exact (tidied live).of_act (Client.isRunning_sendAt i) fun h c past =>
      Client.closed_sendAt past i h
  | forward k => exact live.of_act Client.isRunning_forward fun h c past =>
      Client.closed_forward past h
  | collect k j => exact live.of_changeCaller fun c past => Caller.closed_move past (.collect j)
  | expire k j => exact live.of_changeCaller fun c past => Caller.closed_move past (.expire j)
  | release k j => exact live.of_changeCaller fun c past => Caller.closed_move past (.release j)
  | terminate k => exact live.of_changeCaller fun c past => Caller.closed_move past .terminate
  | clone k => exact live.of_changeCaller fun c past => Caller.closed_move past .retain
  | drop k =>
    have letGo : (n.changeCaller k fun c => (c.letGo.1, (), c.letGo.2)).1.Live := tidied live
    exact letGo.of_changeCaller fun c past => Caller.closed_move past .letGo

theorem live_of_after {moves more : List Move} (live : (after E n (moves ++ more)).Live) :
    (after E n moves).Live := by
  induction more generalizing moves with
  | nil => rwa [List.append_nil] at live
  | cons m more ih =>
    rw [List.append_cons] at live
    have live' := ih live
    rw [after, Run.after_concat] at live'
    exact live_of_move live'

end Live

end Network

end SessionHub
