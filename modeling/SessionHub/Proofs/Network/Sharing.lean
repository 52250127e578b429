import SessionHub.Proofs.Caller.Keys
import SessionHub.Proofs.Hub.Tenure
import SessionHub.Proofs.Network.Run

set_option autoImplicit false

/-! # Clients that share a hub with others

A hub may serve others besides clients. Among the events of a run (`Event`) are therefore all that
others can do to the hub, save that they leave the sessions of clients alone (`Event.isFair`).

A client and its session are needed for as long as the client is held or a call has still to be
sent. An event concerns the hub alone, or it connects a client, or it is about one client, which
uses its session and its mailbox, and drops the session if it is then no longer needed (`Moved`,
`moved`). -/

namespace SessionHub

/-- Whether a caller is held or one of its calls has still to be sent. -/
def Caller.isNeeded (c : Caller) : Bool :=
  c.holders ≠ 0 || !c.sends.isEmpty

theorem Caller.isNeeded_iff {c : Caller} : c.isNeeded ↔ c.holders ≠ 0 ∨ c.sends ≠ [] := by
  simp [isNeeded]

theorem Caller.isNeeded_eq_false_iff {c : Caller} :
    c.isNeeded = false ↔ c.holders = 0 ∧ c.sends = [] := by
  simp [isNeeded]

/-- A caller that is needed stays so, unless a holder is dropped or a send is carried out. -/
theorem Caller.isNeeded_move {c : Caller} {a : Caller.Move} (other : a ≠ .letGo)
    (kept : a ≠ .setOut) (needed : c.isNeeded) : (c.move a).isNeeded := by
  rw [isNeeded_iff] at needed ⊢
  refine needed.imp (fun held => ?_) fun waits => ?_
  · rw [holders_move]
    cases a <;> first | exact held | exact Nat.succ_ne_zero _ | exact absurd rfl other
  · cases a with
    | issue scheduled method args named =>
      cases scheduled with
      | false => exact waits
      | true =>
        exact fun empty => waits (List.suffix_nil.mp (empty ▸ c.sends_issue method args named))
    | setOut => exact absurd rfl kept
    | _ => exact fun empty => waits ((c.sends_move rfl).symm.trans empty)

/-- Whether a move of the hub is one of those by which the owner of session `s` and mailbox `m` uses
    them, or logs something. -/
def Hub.Move.uses (s m : Nat) : Hub.Move → Bool
  | .request k _ | .poll k => k = s
  | .read k | .leave k => k = m
  | .log _ => true
  | _ => false

namespace Client

variable {σ : Type}

/-- The number of the session. -/
def sessionId (h : Hub σ) (c : Client) : SessionId :=
  (h.sessions[c.session]?.map (·.id)).getD default

theorem tidy_eq (h : Hub σ) (c : Client) :
    c.tidy h = if c.role.linked ∧ c.caller.isNeeded = false then
      (h.drop c.session, { c with role.linked := false }) else (h, c) := by
  have same : (c.role.linked && c.caller.holders = 0 && c.caller.sends.isEmpty) ↔
      c.role.linked ∧ c.caller.isNeeded = false := by
    simp [Caller.isNeeded, and_assoc]
  unfold tidy
  by_cases past : c.role.linked ∧ c.caller.isNeeded = false
  · rw [if_pos past, if_pos (same.mpr past)]
  · rw [if_neg past, if_neg (mt same.mp past)]

/-! ## What a move does to a client -/

/-- What a move does to the client that it is about, and to the hub, except that the session is
    dropped. -/
inductive Used (h : Hub σ) (c : Client) : Network.Move → List Hub.Move → Client → Prop where
  | owned {m : Network.Move} {k : Nat} {a : Caller.Move} (hm : m.owned? = some (k, a)) :
    Used h c m [.log (c.caller.act a).2] { c with caller := c.caller.move a }
  | unsent {k i : Nat} (none_there : c.caller.sends[i]? = none) : Used h c (.send k i) [] c
  | sent {k i : Nat} {send : Send} {asking : List Hub.Move} {caller : Caller}
    (result : Except DeliveryError Unit) (found : c.caller.sends[i]? = some send)
    (asks : ∀ a ∈ asking, a.uses c.session c.mailbox)
    (rest : caller = { c.caller with sends := c.caller.sends.eraseIdx i }) :
    Used h c (.send k i) (asking ++ [.log (caller.act (.sendEnded send.id result)).2])
      { c with caller := caller.move (.sendEnded send.id result) }
  | waited {k : Nat} : Used h c (.forward k) [] c
  | told {k : Nat} (bytes : Bytes) (held : c.caller.holders ≠ 0) :
    Used h c (.forward k) [.read c.mailbox, .log (c.caller.act (.receive bytes)).2]
      { c with caller := c.caller.move (.receive bytes) }
  /-- The client is not held, or nothing will be delivered any more. -/
  | ended {k : Nat} {leaving : List Hub.Move} (cause : c.caller.holders = 0 ∨ h.isCutOff c.mailbox)
    (leaves : ∀ a ∈ leaving, a.uses c.session c.mailbox) :
    Used h c (.forward k) leaving { c with role.forwarding := false }

/-- What a move does to the client that it is about, and to the hub. -/
inductive Changed (h : Hub σ) (c : Client) (m : Network.Move) : List Hub.Move → Client → Prop where
  | kept {L : List Hub.Move} {c' : Client} (used : c.Used h m L c')
    (needed : c'.role.linked → c'.caller.isNeeded) : Changed h c m L c'
  | released {L : List Hub.Move} {c' : Client} (used : c.Used h m L c') (linked : c'.role.linked)
    (past : c'.caller.isNeeded = false) :
    Changed h c m (L ++ [.drop c.session]) { c' with role.linked := false }

namespace Used

variable {h : Hub σ} {c c' : Client} {m : Network.Move} {L : List Hub.Move}

theorem place (used : c.Used h m L c') :
    c'.session = c.session ∧ c'.mailbox = c.mailbox ∧ c'.role.linked = c.role.linked := by
  cases used <;> exact ⟨rfl, rfl, rfl⟩

theorem uses (used : c.Used h m L c') : ∀ a ∈ L, a.uses c.session c.mailbox := by
  cases used with
  | owned hm => simp [Hub.Move.uses]
  | unsent none_there => exact nofun
  | sent result found asks rest =>
    refine List.forall_mem_append.mpr ⟨asks, ?_⟩
    simp [Hub.Move.uses]
  | waited => exact nofun
  | told bytes held => simp [Hub.Move.uses]
  | ended cause leaves => exact leaves

theorem isNeeded_of_forward {k : Nat} (used : c.Used h (.forward k) L c')
    (needed : c.caller.isNeeded) : c'.caller.isNeeded := by
  cases used with
  | owned hm => cases hm
  | waited => exact needed
  | told bytes held => exact Caller.isNeeded_move nofun nofun needed
  | ended cause leaves => exact needed

/-- A step of a client, after which the session is dropped if it is not needed any more. -/
theorem changed (used : c.Used h m L c') (E : Engine σ) :
    ∃ L' d, Changed h c m L' d ∧ c'.tidy (Hub.after E h L) = (Hub.after E h L', d) := by
  rw [tidy_eq]
  split
  · next past =>
    refine ⟨_, _, .released used past.1 past.2, ?_⟩
    rw [Hub.after, Hub.after, Run.after_concat, used.place.1]
    rfl
  · next needed =>
    refine ⟨_, _, .kept used fun linked => ?_, rfl⟩
    rw [← Bool.not_eq_false]
    exact fun past => needed ⟨linked, past⟩

end Used

/-- What a send does to the hub is done with the session. -/
theorem sendPayload_uses (E : Engine σ) (h : Hub σ) (s m : Nat) (p : Payload) :
    ∃ L, (∀ a ∈ L, a.uses s m) ∧ (h.sendPayload s p).1 = Hub.after E h L := by
  have asked : ∀ a ∈ [Hub.Move.request s p.bytes], a.uses s m := by simp [Hub.Move.uses]
  unfold Hub.sendPayload
  split
  · next h' e same => exact ⟨_, asked, (congrArg Prod.fst same).symm⟩
  · next h' same =>
    obtain rfl : (h.request s p.bytes).1 = h' := congrArg Prod.fst same
    have polled : ∀ a ∈ [Hub.Move.request s p.bytes, .poll s], a.uses s m := by
      simp [Hub.Move.uses]
    split
    · next h'' e same' => exact ⟨_, polled, (congrArg Prod.fst same').symm⟩
    · next h'' same' => exact ⟨_, polled, (congrArg Prod.fst same').symm⟩

theorem sendAt_used (E : Engine σ) (k i : Nat) (h : Hub σ) (c : Client) :
    ∃ L c', Used h c (.send k i) L c' ∧ c.sendAt i h = (Hub.after E h L, c') := by
  unfold sendAt
  cases found : c.caller.sends[i]? with
  | none => exact ⟨[], c, .unsent found, rfl⟩
  | some send =>
    obtain ⟨asking, asks, same⟩ := sendPayload_uses E h c.session c.mailbox send.payload
    refine ⟨_, _, .sent (h.sendPayload c.session send.payload).2 found asks rfl, ?_⟩
    rw [Hub.after, Run.after_concat, ← Hub.after, ← same]
    rfl

/-- To end is to leave the mailbox. -/
theorem endForwarding_eq (E : Engine σ) (h : Hub σ) (c : Client) : ∃ records, c.endForwarding h =
    (Hub.after E h [.leave c.mailbox, .log records], { c with role.forwarding := false }) :=
  ⟨_, rfl⟩

theorem forward_used (E : Engine σ) (k : Nat) (h : Hub σ) (c : Client) :
    ∃ L c', Used h c (.forward k) L c' ∧ c.forward h = (Hub.after E h L, c') := by
  unfold forward
  split
  · exact ⟨[], c, .waited, rfl⟩
  · split
    · next bytes h' read =>
      have now : h.move E (.read c.mailbox) = h' := by
        show ((h.read? c.mailbox).map (·.2)).getD h = h'
        rw [read]
        rfl
      split
      · next unheld =>
        obtain ⟨records, ended⟩ := endForwarding_eq E h' c
        refine ⟨[.read c.mailbox, .leave c.mailbox, .log records], _, .ended (.inl unheld) ?_, ?_⟩
        · simp [Hub.Move.uses]
        · rw [Hub.after, Run.after_cons, now]
          exact ended
      · next held =>
        refine ⟨_, _, .told bytes held, ?_⟩
        rw [Hub.after, Run.after_cons, now]
        rfl
    · split
      · next cut =>
        obtain ⟨records, ended⟩ := endForwarding_eq E h c
        exact ⟨_, _, .ended (.inr cut) (by simp [Hub.Move.uses]), ended⟩
      · exact ⟨[], c, .waited, rfl⟩

end Client

namespace Network

variable {σ : Type}

/-! ## Events -/

/-- What can happen to clients that share a hub with others. -/
inductive Event where
  /-- The driver, a client, or a holder of it makes a move. -/
  | own (m : Move)
  /-- Others do something to the hub. -/
  | foreign (a : Hub.Act)

/-- The network after an event. -/
def happen (E : Engine σ) (n : Network σ Local) : Event → Network σ Local
  | .own m => n.move E m
  | .foreign a => { n with hub := n.hub.act E a }

/-- The network after some events. -/
def afterEvents (E : Engine σ) (n : Network σ Local) (events : List Event) : Network σ Local :=
  Run.after (happen E) n events

/-- Whether an event is possible where clients share the hub. A client is cloned by a holder of it.
    Others make no requests and close no session except by way of sessions of their own, enrol no
    mailbox that they have not opened, and do not strike clients off. -/
def Event.isFair (n : Network σ Local) : Event → Bool
  | .own (.clone k) => n.members[k]?.all fun c => c.caller.holders ≠ 0
  | .own _ => true
  | .foreign a =>
    a.isDiscreet && n.members.all fun c => a.spares c.session (Client.sessionId n.hub c)

/-- Whether each of some events is fair when it happens. -/
def areFair (E : Engine σ) (n : Network σ Local) (events : List Event) : Bool :=
  (Run.seen (happen E) (fun n e => [e.isFair n]) n events).all id

/-- Whether an event gives a number. -/
def Event.enrols : Event → Bool
  | .own m => m.connects
  | .foreign a => a.enrols

/-- Whether an event issues a call of client `k`. -/
def Event.calls (k : Nat) : Event → Bool
  | .own m => m.calls k
  | .foreign _ => false

/-- Whether an event is a move of the holder of ticket `j` of client `k`. -/
def Event.isAt (k j : Nat) : Event → Bool
  | .own m => m.owned?.any fun a => a.1 = k && a.2.isAt j
  | .foreign _ => false

/-- Whether an event is a step of the driver. -/
def Event.drives : Event → Bool
  | .own .drive | .foreign (.move .drive) => true
  | _ => false

/-- The commands that an event puts into the queue. -/
def Event.queued (E : Engine σ) (n : Network σ Local) (e : Event) : List Command :=
  if e.drives then [] else (n.happen E e).hub.queue.drop n.hub.queue.length

/-- The commands that some events put into the queue, in order. -/
def queuedIn (E : Engine σ) (n : Network σ Local) (events : List Event) : List Command :=
  Run.seen (happen E) (fun n e => e.queued E n) n events

@[simp] theorem areFair_cons (E : Engine σ) (n : Network σ Local) (e : Event)
    (events : List Event) :
    areFair E n (e :: events) = (e.isFair n && areFair E (n.happen E e) events) := by
  simp [areFair]

@[simp] theorem areFair_concat (E : Engine σ) (n : Network σ Local) (events : List Event)
    (e : Event) :
    areFair E n (events ++ [e]) = (areFair E n events && e.isFair (afterEvents E n events)) := by
  simp [areFair, afterEvents]

theorem areFair_append (E : Engine σ) (n : Network σ Local) (events more : List Event) :
    areFair E n (events ++ more) =
      (areFair E n events && areFair E (afterEvents E n events) more) := by
  simp [areFair, afterEvents, Run.seen_append]

/-! ## What events do -/

/-- What an event does that concerns the hub alone. -/
def Event.aside? : Event → Option Hub.Act
  | .own .drive => some (.move .drive)
  | .own .poll => some (.move (.command .poll))
  | .own .shutdown => some (.move (.command .shutdown))
  | .own .retain => some (.move .retain)
  | .own .letGo => some (.move .letGo)
  | .own _ => none
  | .foreign a => some a

/-- The client that an event is about. -/
def Event.client? : Event → Option Nat
  | .own m => m.client?
  | .foreign _ => none

/-- A client that was just connected. -/
def connected (h : Hub σ) : Client :=
  { session := h.sessions.size, mailbox := h.mailboxes.size, role := {} }

/-- What an event does to a network, where the acts are what it does to the hub. -/
inductive Moved (E : Engine σ) (n n' : Network σ Local) (e : Event) : List Hub.Act → Prop where
  | aside {a : Hub.Act} (he : e.aside? = some a) (hub : n'.hub = n.hub.act E a)
    (members : n'.members = n.members) : Moved E n n' e [a]
  | connected (he : e = .own .connect) (hub : n'.hub = n.hub.openMailbox.1)
    (members : n'.members = n.members.push (connected n.hub)) : Moved E n n' e [.move .openMailbox]
  | absent {m : Move} {k : Nat} (he : e = .own m) (about : m.client? = some k)
    (vacant : n.members[k]? = none) (hub : n'.hub = n.hub) (members : n'.members = n.members) :
    Moved E n n' e []
  | changed {m : Move} {k : Nat} {c c' : Client} {L : List Hub.Move} (he : e = .own m)
    (about : m.client? = some k) (found : n.members[k]? = some c) (change : c.Changed n.hub m L c')
    (hub : n'.hub = Hub.after E n.hub L) (members : n'.members = n.members.set! k c') :
    Moved E n n' e (L.map .move)

/-- What an event does to client `k`: nothing if it is not about it, and else what its move does. -/
inductive Event.Meets (n : Network σ Local) (k : Nat) (e : Event) (c : Client) : Client → Prop where
  | spares (other : e.client? ≠ some k) : Meets n k e c c
  | moves {m : Move} {L : List Hub.Move} {c' : Client} (he : e = .own m)
    (about : m.client? = some k) (change : c.Changed n.hub m L c') : Meets n k e c c'

section Moved

variable {E : Engine σ} {n : Network σ Local}

/-- A client takes a step. -/
theorem moved_act {m : Move} {k : Nat} (about : m.client? = some k)
    {step : Hub σ → Client → Hub σ × Client}
    (does : ∀ c : Client, n.members[k]? = some c →
      ∃ L c', c.Changed n.hub m L c' ∧ step n.hub c = (Hub.after E n.hub L, c'))
    {n' : Network σ Local} (hub : n'.hub = (n.act k step).hub)
    (members : n'.members = (n.act k step).members) : ∃ acts, Moved E n n' (.own m) acts := by
  cases found : n.members[k]? with
  | none =>
    rw [act_of_none found] at hub members
    exact ⟨[], .absent rfl about found hub members⟩
  | some c =>
    obtain ⟨L, c', change, same⟩ := does c found
    rw [act_of_some found, same] at hub members
    exact ⟨_, .changed rfl about found change hub members⟩

/-- A holder of a client, or of a ticket of it, has its caller make a move other than `letGo`. -/
theorem moved_changeCaller {α : Type} {m : Move} {k : Nat} {a : Caller.Move}
    (hm : m.owned? = some (k, a)) (other : ∀ j, m ≠ .drop j)
    {change : Caller → Caller × α × List Record}
    (does : ∀ c, (change c).1 = c.move a ∧ (change c).2.2 = (c.act a).2)
    (needed : ∀ c : Client, n.members[k]? = some c → c.role.linked → c.caller.isNeeded)
    {n' : Network σ Local} (hub : n'.hub = (n.changeCaller k change).1.hub)
    (members : n'.members = (n.changeCaller k change).1.members) :
    ∃ acts, Moved E n n' (.own m) acts := by
  have apart : a ≠ .letGo ∧ a ≠ .setOut := by
    constructor <;> rintro rfl <;> cases m <;> simp_all [Move.owned?]
  rw [changeCaller_eq_act] at hub members
  refine moved_act (client?_of_owned hm) (fun (c : Client) found => ?_) hub members
  obtain ⟨caller, records⟩ := does c.caller
  refine ⟨[.log (c.caller.act a).2], { c with caller := c.caller.move a },
    .kept (.owned hm) fun linked => ?_, by rw [caller, records]; rfl⟩
  exact Caller.isNeeded_move apart.1 apart.2 (needed c found linked)

theorem moved (E : Engine σ) (n : Network σ Local) (e : Event)
    (needed : ∀ (k : Nat) (c : Client), n.members[k]? = some c → c.role.linked →
      c.caller.isNeeded) : ∃ acts, Moved E n (n.happen E e) e acts := by
  cases e with
  | foreign a => exact ⟨_, .aside rfl rfl rfl⟩
  | own m =>
    cases m with
    | drive => exact ⟨_, .aside rfl rfl rfl⟩
    | poll => exact ⟨_, .aside rfl rfl rfl⟩
    | shutdown => exact ⟨_, .aside rfl rfl rfl⟩
    | retain => exact ⟨_, .aside rfl rfl rfl⟩
    | letGo => exact ⟨_, .aside rfl rfl rfl⟩
    | connect => exact ⟨_, .connected rfl rfl rfl⟩
    | call k method args named =>
      obtain ⟨hub, members, -⟩ := n.call_eq k method args named
      exact moved_changeCaller rfl (by simp) (fun _ => ⟨rfl, rfl⟩) (needed k) hub members
    | collect k j => exact moved_changeCaller rfl (by simp) (fun _ => ⟨rfl, rfl⟩) (needed k) rfl rfl
    | expire k j => exact moved_changeCaller rfl (by simp) (fun _ => ⟨rfl, rfl⟩) (needed k) rfl rfl
    | release k j => exact moved_changeCaller rfl (by simp) (fun _ => ⟨rfl, rfl⟩) (needed k) rfl rfl
    | terminate k => exact moved_changeCaller rfl (by simp) (fun _ => ⟨rfl, rfl⟩) (needed k) rfl rfl
    | clone k => exact moved_changeCaller rfl (by simp) (fun _ => ⟨rfl, rfl⟩) (needed k) rfl rfl
    | drop k =>
      have same : n.dropClient k = n.act k fun h c => Client.tidy
          (h.noteAll c.caller.letGo.2) { c with caller := c.caller.letGo.1 } := by
        show (n.changeCaller k fun c => (c.letGo.1, (), c.letGo.2)).1.act k Client.tidy = _
        rw [changeCaller_eq_act, act_act]
      refine moved_act (m := .drop k) (k := k) rfl (fun c found => ?_) (congrArg (·.hub) same)
        (congrArg (·.members) same)
      exact (Client.Used.owned (a := .letGo) rfl).changed E
    | send k i =>
      have same := n.act_act k (Client.sendAt i) Client.tidy
      refine moved_act (m := .send k i) (k := k) rfl (fun c found => ?_) (congrArg (·.hub) same)
        (congrArg (·.members) same)
      obtain ⟨L, c', used, sent⟩ := Client.sendAt_used E k i n.hub c
      rw [sent]
      exact used.changed E
    | forward k =>
      refine moved_act rfl (fun c found => ?_) rfl rfl
      obtain ⟨L, c', used, same⟩ := Client.forward_used E k n.hub c
      refine ⟨L, c', .kept used fun linked => ?_, same⟩
      exact used.isNeeded_of_forward (needed k c found (used.place.2.2 ▸ linked))

end Moved

end Network

namespace Hub

variable {σ : Type} (E : Engine σ)

/-! ## Acts that use a session -/

theorem afterActs_moves (h : Hub σ) (L : List Move) :
    afterActs E h (L.map .move) = after E h L := by
  induction L generalizing h with
  | nil => rfl
  | cons m L ih => exact ih (h.move E m)

/-- What comes from outside only adds to the queue. -/
theorem queued_afterActs (h : Hub σ) {acts : List Act} (outside : ∀ a ∈ acts, a ≠ .move .drive) :
    Queued h (afterActs E h acts) (acceptedIn E h acts) := by
  induction acts generalizing h with
  | nil => exact queued_nothing rfl rfl rfl
  | cons a acts ih =>
    obtain ⟨first, outside⟩ := List.forall_mem_cons.mp outside
    have now := queued_act E h first
    have later := ih (h.act E a) outside
    exact {
      engine := later.engine.trans now.engine
      phase := later.phase.trans now.phase
      queue := by
        rw [acceptedIn, Run.seen_cons, ← List.append_assoc, ← now.queue]
        exact later.queue }

theorem Move.uses_cases {s m : Nat} {a : Move} (uses : a.uses s m) :
    (Act.move a).isDiscreet ∧ (Act.move a).enrols = false ∧ a ≠ .drive ∧
      ∀ k id, (Act.move a).spares k id := by
  cases a <;> first | (cases uses; done) | exact ⟨rfl, rfl, by rintro ⟨⟩, fun _ _ => rfl⟩

/-- What is in other mailboxes stays there. -/
theorem unread_of_uses (h : Hub σ) {s m other : Nat} {L : List Move}
    (uses : ∀ a ∈ L, a.uses s m ∨ a = .drop s) (apart : other ≠ m) :
    (after E h L).unread other = h.unread other := by
  induction L generalizing h with
  | nil => rfl
  | cons a L ih =>
    obtain ⟨first, uses⟩ := List.forall_mem_cons.mp uses
    have nothing : a.taken other h = [] ∧ a.added other h = [] := by
      rcases first with uses | rfl
      · cases a <;> first | exact ⟨rfl, rfl⟩ | cases uses | skip
        all_goals
          obtain rfl := of_decide_eq_true uses
          exact ⟨if_neg (Ne.symm apart), rfl⟩
      · exact ⟨rfl, rfl⟩
    have now := taken_append_unread E h a other
    rw [nothing.1, nothing.2, List.nil_append, List.append_nil] at now
    exact (ih (h.move E a) uses).trans now

end Hub

namespace Client

variable {σ : Type} {h : Hub σ} {c c' : Client} {m : Network.Move} {L : List Hub.Move}

theorem Used.acts (used : c.Used h m L c') {a : Hub.Act} (ha : a ∈ L.map Hub.Act.move) :
    a.isDiscreet ∧ a.enrols = false ∧ a ≠ .move .drive ∧ ∀ k id, a.spares k id := by
  obtain ⟨move, there, rfl⟩ := List.mem_map.mp ha
  obtain ⟨discreet, gives, outside, spares⟩ := Hub.Move.uses_cases (used.uses move there)
  exact ⟨discreet, gives, fun same => outside (Hub.Act.move.inj same), spares⟩

theorem Changed.place (change : c.Changed h m L c') :
    c'.session = c.session ∧ c'.mailbox = c.mailbox := by
  cases change with
  | kept used => exact ⟨used.place.1, used.place.2.1⟩
  | released used => exact ⟨used.place.1, used.place.2.1⟩

/-- What a client does to the hub: it uses its session and its mailbox, and may drop its session. -/
theorem Changed.uses (change : c.Changed h m L c') :
    ∀ a ∈ L, a.uses c.session c.mailbox ∨ a = .drop c.session := by
  cases change with
  | kept used needed => exact fun a ha => .inl (used.uses a ha)
  | released used linked past =>
    intro a ha
    rcases List.mem_append.mp ha with before | last
    · exact .inl (used.uses a before)
    · exact .inr (List.mem_singleton.mp last)

theorem Changed.acts (change : c.Changed h m L c') {a : Hub.Act} (ha : a ∈ L.map Hub.Act.move) :
    a.isDiscreet ∧ a.enrols = false ∧ a ≠ .move .drive ∧
      ∀ k id, k ≠ c.session → a.spares k id := by
  obtain ⟨move, there, rfl⟩ := List.mem_map.mp ha
  rcases change.uses move there with uses | rfl
  · obtain ⟨discreet, gives, outside, spares⟩ := Hub.Move.uses_cases uses
    exact ⟨discreet, gives, fun same => outside (Hub.Act.move.inj same), fun k id _ => spares k id⟩
  · refine ⟨rfl, rfl, by rintro ⟨⟩, fun k id other => ?_⟩
    simp [Hub.Act.spares, Hub.Act.closes, Hub.Act.strikes, Ne.symm other]

end Client

namespace Network

variable {σ : Type}

section Fair

variable {n : Network σ Local} {e : Event}

/-- What a fair event does that concerns the hub alone spares all clients. -/
theorem aside_of_fair {a : Hub.Act} (he : e.aside? = some a) (fair : e.isFair n) :
    a.isDiscreet ∧ a.enrols = e.enrols ∧ (a = .move .drive ↔ e.drives) ∧
      ∀ (k : Nat) (c : Client), n.members[k]? = some c →
        a.spares c.session (c.sessionId n.hub) := by
  cases e with
  | own m =>
    cases m <;> cases he <;> exact ⟨rfl, rfl, by simp [Event.drives], fun _ _ _ => rfl⟩
  | foreign b =>
    cases he
    obtain ⟨discreet, spared⟩ := Bool.and_eq_true_iff.mp fair
    refine ⟨discreet, rfl, ?_, fun k c found => ?_⟩
    · unfold Event.drives
      split <;> simp_all
    · exact Array.all_eq_true_iff_forall_mem.mp spared c (Array.mem_of_getElem? found)

theorem client?_of_aside {a : Hub.Act} (he : e.aside? = some a) : e.client? = none := by
  cases e with
  | own m => cases m <;> first | rfl | cases he
  | foreign a => rfl

theorem calls_of_other {k : Nat} (other : e.client? ≠ some k) :
    e.calls k = false := by
  cases e with
  | foreign a => rfl
  | own m =>
    cases m with
    | call j method args named =>
      exact decide_eq_false fun same => other (congrArg some same)
    | _ => rfl

/-- A move that is about a client is none of the driver's, and connects no client. -/
theorem quiet_of_client {m : Move} {k : Nat} (about : m.client? = some k) :
    (Event.own m).drives = false ∧ (Event.own m).enrols = false := by
  cases m <;> first | exact ⟨rfl, rfl⟩ | cases about

end Fair

namespace Moved

variable {E : Engine σ} {n n' : Network σ Local} {e : Event} {acts : List Hub.Act} {k : Nat}

/-! ## What becomes of the hub -/

theorem hub_eq (v : Moved E n n' e acts) : n'.hub = Hub.afterActs E n.hub acts := by
  cases v with
  | aside he hub => exact hub
  | connected he hub => exact hub
  | absent he about vacant hub => exact hub
  | changed he about found change hub => exact hub.trans (Hub.afterActs_moves E n.hub _).symm

theorem discreet (v : Moved E n n' e acts) (fair : e.isFair n) : ∀ a ∈ acts, a.isDiscreet := by
  cases v with
  | aside he => exact fun a ha => List.mem_singleton.mp ha ▸ (aside_of_fair he fair).1
  | connected he => exact fun a ha => List.mem_singleton.mp ha ▸ rfl
  | absent he => exact nofun
  | changed he about found change => exact fun a ha => (change.acts ha).1

theorem countP_enrols (v : Moved E n n' e acts) (fair : e.isFair n) :
    acts.countP Hub.Act.enrols = if e.enrols then 1 else 0 := by
  cases v with
  | aside he => rw [List.countP_singleton, (aside_of_fair he fair).2.1]
  | connected he =>
    rw [he]
    rfl
  | absent he about =>
    rw [he, (quiet_of_client about).2]
    rfl
  | changed he about found change =>
    rw [he, (quiet_of_client about).2]
    exact List.countP_eq_zero.mpr fun a ha => by simp [(change.acts ha).2.1]

/-- Of a step of the driver nothing is accepted, and what comes from outside only adds to the
    queue. -/
theorem outside (v : Moved E n n' e acts) (fair : e.isFair n) :
    e.drives ∧ acts = [.move .drive] ∨ e.drives = false ∧ ∀ a ∈ acts, a ≠ .move .drive := by
  cases v with
  | @aside a he =>
    have drives := (aside_of_fair he fair).2.2.1
    by_cases inside : a = .move .drive
    · exact .inl ⟨drives.mp inside, by rw [inside]⟩
    · refine .inr ⟨by simpa using mt drives.mpr inside, fun b hb => ?_⟩
      exact List.mem_singleton.mp hb ▸ inside
  | connected he =>
    refine .inr ⟨by rw [he]; rfl, fun b hb => ?_⟩
    rw [List.mem_singleton.mp hb]
    rintro ⟨⟩
  | absent he about => exact .inr ⟨he ▸ (quiet_of_client about).1, nofun⟩
  | changed he about found change =>
    exact .inr ⟨he ▸ (quiet_of_client about).1, fun a ha => (change.acts ha).2.2.1⟩

/-- The commands that an event puts into the queue are those that are accepted. -/
theorem queued_eq (v : Moved E n (n.happen E e) e acts) (fair : e.isFair n) :
    e.queued E n = Hub.acceptedIn E n.hub acts := by
  unfold Event.queued
  rcases v.outside fair with ⟨drives, rfl⟩ | ⟨drives, outside⟩
  · rw [if_pos drives]
    rfl
  · rw [drives, v.hub_eq, (Hub.queued_afterActs E n.hub outside).queue, List.drop_left]
    rfl

/-! ## What becomes of a client -/

/-- Where a client comes from: it is just connected, or it was there before, and if the event is not
    about it, then as it is. -/
theorem member_cases (v : Moved E n n' e acts) {c' : Client} (found' : n'.members[k]? = some c') :
    (e.client? ≠ some k ∧ n.members[k]? = some c') ∨
    (e = .own .connect ∧ acts = [.move .openMailbox] ∧ k = n.members.size ∧
      c' = Network.connected n.hub) ∨
    ∃ m c L, e = .own m ∧ m.client? = some k ∧ acts = L.map .move ∧ n.members[k]? = some c ∧
      Client.Changed n.hub c m L c' := by
  cases v with
  | aside he hub members =>
    rw [members] at found'
    exact .inl ⟨by rw [client?_of_aside he]; exact nofun, found'⟩
  | connected he hub members =>
    rw [members, Array.getElem?_push] at found'
    split at found'
    · next last => exact .inr (.inl ⟨he, rfl, last, (Option.some.inj found').symm⟩)
    · exact .inl ⟨he ▸ nofun, found'⟩
  | @absent m j he about vacant hub members =>
    rw [members] at found'
    refine .inl ⟨fun same => ?_, found'⟩
    rw [he] at same
    cases about.symm.trans same
    cases vacant.symm.trans found'
  | @changed m j c d L he about found change hub members =>
    rw [members, members_set found] at found'
    split at found'
    · next same =>
      subst same
      cases found'
      exact .inr (.inr ⟨m, c, L, he, about, rfl, found, change⟩)
    · next other =>
      refine .inl ⟨fun same => ?_, found'⟩
      rw [he] at same
      exact other (Option.some.inj (about.symm.trans same))

/-- What becomes of a client: it is still there, and has met with the event. -/
theorem member (v : Moved E n n' e acts) {c : Client} (found : n.members[k]? = some c) :
    ∃ c', n'.members[k]? = some c' ∧ e.Meets n k c c' := by
  have there : ∃ c', n'.members[k]? = some c' := by
    have inside := (Array.getElem?_eq_some_iff.mp found).1
    suffices more : k < n'.members.size from ⟨_, Array.getElem?_eq_getElem more⟩
    cases v with
    | aside he hub members => rwa [members]
    | connected he hub members =>
      rw [members, Array.size_push]
      exact Nat.lt_succ_of_lt inside
    | absent he about vacant hub members => rwa [members]
    | changed he about found change hub members =>
      rwa [members, Array.set!_eq_setIfInBounds, Array.size_setIfInBounds]
  obtain ⟨c', found'⟩ := there
  refine ⟨c', found', ?_⟩
  rcases v.member_cases found' with ⟨other, same⟩ | ⟨-, -, new, -⟩
    | ⟨m, d, L, he, about, -, old, change⟩
  · obtain rfl : c' = c := Option.some.inj (same.symm.trans found)
    exact .spares other
  · exact absurd (new ▸ (Array.getElem?_eq_some_iff.mp found).1) (Nat.lt_irrefl _)
  · cases old.symm.trans found
    exact .moves he about change

/-- No client is touched but the one that an event is about. -/
theorem member_of_ne (v : Moved E n n' e acts) {j : Nat} (about : e.client? = some k)
    (other : j ≠ k) : n'.members[j]? = n.members[j]? := by
  cases v with
  | aside he hub members => rw [members]
  | connected he =>
    rw [he] at about
    cases about
  | absent he about' vacant hub members => rw [members]
  | changed he about' found change hub members =>
    rw [he] at about
    cases about.symm.trans about'
    rw [members, members_set found, if_neg (Ne.symm other)]

/-- An event that is not about a client spares its session, as no two clients share one. -/
theorem spares (v : Moved E n n' e acts) (fair : e.isFair n) {c : Client}
    (found : n.members[k]? = some c) (other : e.client? ≠ some k)
    (apart : ∀ (j : Nat) (d : Client), j ≠ k → n.members[j]? = some d → d.session ≠ c.session) :
    ∀ a ∈ acts, a.spares c.session (c.sessionId n.hub) := by
  cases v with
  | aside he =>
    exact fun a ha => List.mem_singleton.mp ha ▸ (aside_of_fair he fair).2.2.2 k c found
  | connected he => exact fun a ha => List.mem_singleton.mp ha ▸ rfl
  | absent he => exact nofun
  | @changed m j d d' L he about there change =>
    have ne : j ≠ k := by
      rintro rfl
      exact other (he ▸ about)
    exact fun a ha => (change.acts ha).2.2.2 _ _ (apart j d ne there).symm

end Moved

end Network

end SessionHub
