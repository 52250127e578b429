import SessionHub.Proofs.Network.Sharing

set_option autoImplicit false

/-! # The places of clients

Each client has a session and a mailbox that it shares with no other (`Network.InOrder`). The
session is open and led to the mailbox as long as it is the client's, and is closed from then on
(`Client.Seated`); and it is the client's as long as the client is needed (`Client.Steady`). Fair
events keep this up (`InOrder.happen`), and an event closes the session of a client or leaves it
alone (`Client.Parts`). -/

namespace SessionHub

namespace Caller

/-! ## Callers without holders -/

section Abandoned

variable {c : Caller} {a : Move}

/-- Dropping the last holder of a caller terminates it. -/
theorem closed_of_abandoned (abandoned : c.holders = 0 → c.closed)
    (unheld : (c.move a).holders = 0) : (c.move a).closed := by
  by_cases last : a = .letGo
  · subst last
    have unheld : c.holders - 1 = 0 := (c.holders_move .letGo).symm.trans unheld
    simp only [move, act, letGo, if_pos unheld]
    rfl
  · refine closed_move (abandoned ?_) a
    rw [holders_move] at unheld
    cases a <;> first | exact unheld | cases unheld | exact absurd rfl last

/-- A caller that was terminated issues no call, so that it is given nothing more to send. -/
theorem sends_of_closed (past : c.closed) (kept : a ≠ .setOut) : (c.move a).sends = c.sends := by
  cases a with
  | issue scheduled method args named =>
    cases scheduled with
    | false => rfl
    | true => simp only [move, act, issue_of_closed past]
  | setOut => exact absurd rfl kept
  | _ => exact c.sends_move rfl

/-- A caller with `holders = 0` is not held again, and given nothing more to send. -/
theorem idle_move (abandoned : c.holders = 0 → c.closed) (kept : a ≠ .setOut)
    (held : a = .retain → c.holders ≠ 0) (unheld : c.holders = 0) :
    (c.move a).holders = 0 ∧ (c.move a).sends = c.sends := by
  refine ⟨?_, sends_of_closed (abandoned unheld) kept⟩
  rw [holders_move]
  cases a <;> first | exact unheld | exact absurd unheld (held rfl) | exact (by rw [unheld])

/-- A caller that is needed after a move other than `retain` was needed before. -/
theorem isNeeded_of_move (abandoned : c.holders = 0 → c.closed) (kept : a ≠ .setOut)
    (held : a = .retain → c.holders ≠ 0) (needed : (c.move a).isNeeded) : c.isNeeded := by
  rw [isNeeded_iff] at needed ⊢
  by_cases unheld : c.holders = 0
  · have idle := idle_move abandoned kept held unheld
    rw [idle.1, idle.2] at needed
    exact .inr (needed.resolve_left fun anew => anew rfl)
  · exact .inl unheld

end Abandoned

end Caller

namespace Client

variable {σ : Type} {h : Hub σ} {c c' : Client} {m : Network.Move} {L : List Hub.Move} {k : Nat}

/-! ## What is always true of a client -/

/-- What is always true of a client: its table leads to waiting tickets, it was terminated if
    `holders = 0`, and the session is its own for as long as it is needed. -/
structure Steady (c : Client) : Prop where
  keyed : c.caller.Keyed
  abandoned : c.caller.holders = 0 → c.caller.closed
  linked : c.role.linked = c.caller.isNeeded

theorem steady_connected (h : Hub σ) : Steady (Network.connected h) where
  keyed := Caller.keyed_start 1
  abandoned := nofun
  linked := rfl

/-- A send that is carried out leaves `sends`, and `holders` stay as they are. -/
theorem Used.of_send {i : Nat} (used : c.Used h (.send k i) L c') :
    c'.caller.sends = c.caller.sends.eraseIdx i ∧ c'.caller.holders = c.caller.holders := by
  cases used with
  | owned hm => cases hm
  | unsent none_there =>
    exact ⟨(List.eraseIdx_of_length_le (List.getElem?_eq_none_iff.mp none_there)).symm, rfl⟩
  | @sent _ _ send _ _ result found asks rest =>
    subst rest
    exact ⟨Caller.sends_move _ rfl, Caller.holders_move _ (.sendEnded send.id result)⟩

/-- A caller is left as it is, or makes one move, with some of its sends gone. -/
theorem Used.caller_cases (used : c.Used h m L c') (about : m.client? = some k) :
    (c'.caller = c.caller ∧ m.calls k = false) ∨
    ∃ sends a, c'.caller = ({ c.caller with sends } : Caller).move a ∧
      sends.Sublist c.caller.sends ∧ a.takesIdentity = m.calls k ∧
      (∀ j, a.isAt j = (Network.Event.own m).isAt k j) ∧ a ≠ .setOut ∧
      (a = .retain → m = .clone k) := by
  cases used with
  | @owned _ j a hm =>
    obtain rfl : j = k := Option.some.inj ((Network.client?_of_owned hm).symm.trans about)
    refine .inr ⟨c.caller.sends, a, rfl, .refl _, Network.takesIdentity_of_owned hm,
      fun i => by simp [Network.Event.isAt, hm], ?_, ?_⟩
    · rintro rfl
      cases m <;> cases hm
    · rintro rfl
      cases m <;> cases hm
      rfl
  | unsent none_there => exact .inl ⟨rfl, rfl⟩
  | sent result found asks rest =>
    subst rest
    exact .inr ⟨_, _, rfl, List.eraseIdx_sublist .., rfl, fun _ => rfl, nofun, nofun⟩
  | waited => exact .inl ⟨rfl, rfl⟩
  | told bytes held =>
    exact .inr ⟨c.caller.sends, _, rfl, .refl _, rfl, fun _ => rfl, nofun, nofun⟩
  | ended cause leaves => exact .inl ⟨rfl, rfl⟩

/-- What lasts of a client while `calls` calls of it are issued: if `holders = 0`, this stays so,
    and the result on a ticket stays there, unless it may have been taken. -/
structure Lasts (calls : Nat) (came : Nat → Prop) (c c' : Client) : Prop where
  idle : c.caller.holders = 0 →
    c'.caller.holders = 0 ∧ c'.caller.sends.Sublist c.caller.sends
  tidy : ∀ used, c.caller.Tidy used → used + calls < UInt64.size → c'.caller.Tidy (used + calls)
  result : ∀ used, c.caller.Tidy used → used + calls < UInt64.size →
    ∀ (j : Nat) (r : Reply), ¬ came j →
    c.caller.result? j = some r → c'.caller.result? j = some r

theorem Lasts.refl (came : Nat → Prop) (c : Client) : Lasts 0 came c c where
  idle unheld := ⟨unheld, .refl _⟩
  tidy _ t _ := t
  result _ _ _ _ _ _ told := told

theorem Lasts.trans {some more : Nat} {first later : Nat → Prop} {c d e : Client}
    (l : Lasts some first c d) (l' : Lasts more later d e) :
    Lasts (some + more) (fun j => first j ∨ later j) c e where
  idle unheld :=
    have now := l.idle unheld
    ⟨(l'.idle now.1).1, (l'.idle now.1).2.trans now.2⟩
  tidy used t few := by
    have now := l.tidy used t (by omega)
    rw [← Nat.add_assoc]
    exact l'.tidy _ now (by omega)
  result used t few j r left told := by
    rw [not_or] at left
    exact l'.result _ (l.tidy used t (by omega)) (by omega) j r left.2
      (l.result used t (by omega) j r left.1 told)

namespace Steady

/-- A client without holders gets none, as only a holder clones it. -/
theorem used (s : c.Steady) (used : c.Used h m L c') (about : m.client? = some k)
    (held : m = .clone k → c.caller.holders ≠ 0) :
    c'.caller.Keyed ∧ (c'.caller.holders = 0 → c'.caller.closed) ∧
      (c'.caller.isNeeded → c.caller.isNeeded) := by
  rcases used.caller_cases about with ⟨same, -⟩ | ⟨sends, a, moved, fewer, -, -, kept, clones⟩
  · rw [same]
    exact ⟨s.keyed, s.abandoned, id⟩
  · have held' : a = .retain → c.caller.holders ≠ 0 := fun same => held (clones same)
    have abandoned := s.abandoned
    have keyed : ({ c.caller with sends } : Caller).Keyed := s.keyed.of_same rfl rfl rfl
    rw [moved]
    refine ⟨keyed.move a, Caller.closed_of_abandoned abandoned, fun needed => ?_⟩
    have needed :=
      Caller.isNeeded_of_move (c := { c.caller with sends }) abandoned kept held' needed
    rw [Caller.isNeeded_iff] at needed ⊢
    refine needed.imp_right fun some_left none_left => some_left ?_
    exact List.sublist_nil.mp (none_left ▸ fewer)

theorem changed (s : c.Steady) (change : c.Changed h m L c') (about : m.client? = some k)
    (held : m = .clone k → c.caller.holders ≠ 0) : c'.Steady := by
  cases change with
  | kept used needed =>
    obtain ⟨keyed, abandoned, before⟩ := s.used used about held
    refine ⟨keyed, abandoned, Bool.eq_iff_iff.mpr ⟨needed, fun needed' => ?_⟩⟩
    rw [used.place.2.2, s.linked]
    exact before needed'
  | released used linked past =>
    obtain ⟨keyed, abandoned, -⟩ := s.used used about held
    exact ⟨keyed, abandoned, past.symm⟩

theorem lasts_used (s : c.Steady) (used : c.Used h m L c') (about : m.client? = some k)
    (held : m = .clone k → c.caller.holders ≠ 0) :
    Lasts (if m.calls k then 1 else 0) (fun j => (Network.Event.own m).isAt k j) c c' := by
  rcases used.caller_cases about with ⟨same, none_issued⟩
    | ⟨sends, a, moved, fewer, takes, comes, kept, clones⟩
  · rw [none_issued]
    refine ⟨fun unheld => ?_, fun n t few => ?_, fun n t few j r stays told => ?_⟩
    all_goals rw [same]
    · exact ⟨unheld, .refl _⟩
    · exact t
    · exact told
  · refine ⟨fun unheld => ?_, fun n t few => ?_, fun n t few j r stays told => ?_⟩
    all_goals rw [moved]
    · have idle := Caller.idle_move (c := { c.caller with sends }) s.abandoned kept
        (fun same => held (clones same)) unheld
      exact ⟨idle.1, idle.2 ▸ fewer⟩
    · rw [← takes]
      exact ((t.withOthers sends c.caller.holders).act a (takes ▸ few)).1
    · exact (t.withOthers sends c.caller.holders).result?_elsewhere told
        ((comes j).trans (Bool.eq_false_iff.mpr stays)) (takes ▸ few)

theorem lasts (s : c.Steady) (change : c.Changed h m L c') (about : m.client? = some k)
    (held : m = .clone k → c.caller.holders ≠ 0) :
    Lasts (if m.calls k then 1 else 0) (fun j => (Network.Event.own m).isAt k j) c c' := by
  cases change with
  | kept used needed => exact s.lasts_used used about held
  | released used linked past =>
    have same := s.lasts_used used about held
    exact ⟨same.idle, same.tidy, same.result⟩

end Steady

/-- Deliveries are brought to a client for as long as it is held, if some can still come. -/
theorem Changed.forwarding_of_held (change : c.Changed h m L c') (s : c.Steady)
    (about : m.client? = some k) (held : m = .clone k → c.caller.holders ≠ 0)
    (connected : c.role.linked → h.isCutOff c.mailbox = false)
    (before : c.caller.holders ≠ 0 → c.role.forwarding) (held' : c'.caller.holders ≠ 0) :
    c'.role.forwarding := by
  have held_before : c.caller.holders ≠ 0 :=
    fun unheld => held' ((s.lasts change about held).idle unheld).1
  cases change with
  | kept used needed =>
    cases used with
    | ended cause leaves =>
      rcases cause with unheld | cut
      · exact absurd unheld held_before
      · have needed : c.caller.isNeeded := Caller.isNeeded_iff.mpr (.inl held_before)
        rw [connected (s.linked ▸ needed)] at cut
        cases cut
    | _ => exact before held_before
  | released used linked past =>
    rw [Caller.isNeeded_iff.mpr (.inl held')] at past
    cases past

theorem Changed.forwarding_before (change : c.Changed h m L c') (goes_on : c'.role.forwarding) :
    c.role.forwarding := by
  cases change with
  | kept used needed =>
    cases used with
    | ended cause leaves => cases goes_on
    | _ => exact goes_on
  | released used linked past =>
    cases used with
    | ended cause leaves => cases goes_on
    | _ => exact goes_on

/-- The forwarding of a client with `holders = 0` has something to do as soon as its mailbox is
    readable, and ends with it. -/
theorem forward_of_readable {h : Hub σ} {c : Client} (unheld : c.caller.holders = 0)
    (readable : h.isReadable c.mailbox) :
    (c.role.forwarding → c.backlog h ≠ 0) ∧ (c.forward h).2.role.forwarding = false := by
  constructor
  · intro goes_on
    rw [backlog, if_pos goes_on]
    rcases readable with waits | cut
    · have := List.length_pos_iff.mpr waits
      omega
    · rw [if_pos cut]
      exact Nat.succ_ne_zero _
  · unfold forward
    split
    · next past => simpa using past
    · rcases readable with waits | cut
      · obtain ⟨bytes, rest, waits⟩ := List.exists_cons_of_ne_nil waits
        simp only [Hub.read?_of_cons waits]
        rfl
      · split
        · rfl
        · rw [if_pos cut]
          rfl

/-! ## The place of a client -/

/-- Whether the session of a client is open and leads to its mailbox as long as it is the client's,
    and is closed then. -/
structure Seated (h : Hub σ) (id : SessionId) (c : Client) : Prop where
  linked : c.role.linked → h.Reached c.session c.mailbox id
  unlinked : c.role.linked = false → h.Retired c.session c.mailbox id

namespace Seated

variable {id : SessionId}

theorem session (s : c.Seated h id) :
    h.sessions[c.session]? = some { id, closed := !c.role.linked } := by
  cases linked : c.role.linked with
  | true => exact (s.linked linked).session
  | false => exact (s.unlinked linked).session

theorem sessionId_eq (s : c.Seated h id) : c.sessionId h = id := by
  rw [sessionId, s.session]
  rfl

theorem mailbox_lt (s : c.Seated h id) : c.mailbox < h.mailboxes.size := by
  cases linked : c.role.linked with
  | true => exact (s.linked linked).leads.mailbox
  | false => exact (s.unlinked linked).severed.mailbox

theorem session_lt (s : c.Seated h id) : c.session < h.sessions.size :=
  (Array.getElem?_eq_some_iff.mp s.session).1

theorem callback?_eq (s : c.Seated h id) : h.directory.callback? id =
    if c.role.linked then some (.mailbox c.mailbox) else none := by
  cases linked : c.role.linked with
  | true => exact (s.linked linked).entry
  | false => exact (s.unlinked linked).absent

/-- What spares the session of a client leaves it in place. -/
theorem spared (s : c.Seated h id) (E : Engine σ) (v : h.Sealed) {acts : List Hub.Act}
    (discreet : ∀ a ∈ acts, a.isDiscreet) (spares : ∀ a ∈ acts, a.spares c.session id)
    (few : h.directory.enrolments + acts.countP Hub.Act.enrols < Directory.numbers) :
    c.Seated (Hub.afterActs E h acts) id ∧ .close id ∉ Hub.acceptedIn E h acts := by
  cases linked : c.role.linked with
  | true =>
    obtain ⟨reached, nothing⟩ := (s.linked linked).afterActs E v discreet spares few
    exact ⟨⟨fun _ => reached, fun past => by simp [linked] at past⟩, nothing⟩
  | false =>
    obtain ⟨retired, nothing⟩ := (s.unlinked linked).afterActs E discreet few
    exact ⟨⟨fun past => by simp [linked] at past, fun _ => retired⟩, nothing⟩

end Seated

/-- What an event does to the session of a client: nothing, or it closes it, and the driver gets to
    know of it if it runs. -/
def Parts (id : SessionId) (running : Bool) (c c' : Client) (queued : List Command) : Prop :=
  c'.role.linked = c.role.linked ∧ .close id ∉ queued ∨
    c.role.linked ∧ c'.role.linked = false ∧ queued.count (.close id) = if running then 1 else 0

theorem Seated.used {id : SessionId} (s : c.Seated h id) (E : Engine σ) (v : h.Sealed)
    (few : h.directory.enrolments < Directory.numbers) (used : c.Used h m L c') :
    let h' := Hub.after E h L
    c'.Seated h' id ∧ .close id ∉ Hub.acceptedIn E h (L.map .move) ∧ h'.Sealed ∧
      h'.directory.enrolments = h.directory.enrolments ∧ h'.isRunning = h.isRunning := by
  intro h'
  have discreet : ∀ a ∈ L.map Hub.Act.move, a.isDiscreet := fun a ha => (used.acts ha).1
  have none_given : (L.map Hub.Act.move).countP Hub.Act.enrols = 0 :=
    List.countP_eq_zero.mpr fun a ha => by simp [(used.acts ha).2.1]
  have few' : h.directory.enrolments + (L.map Hub.Act.move).countP Hub.Act.enrols <
    Directory.numbers := by rwa [none_given]
  have same : Hub.afterActs E h (L.map .move) = h' := Hub.afterActs_moves E h L
  obtain ⟨seated, nothing⟩ := s.spared E v discreet (fun a ha => (used.acts ha).2.2.2 _ _) few'
  have sealed_still := v.acts E discreet few'
  have count := Hub.enrolments_afterActs E h discreet
  have running := (Hub.queued_afterActs E h fun a ha => (used.acts ha).2.2.1).running
  rw [same] at seated sealed_still count running
  rw [none_given] at count
  obtain ⟨session, mailbox, linked⟩ := used.place
  refine ⟨⟨fun l => ?_, fun l => ?_⟩, nothing, sealed_still, count, running⟩
  · rw [session, mailbox]
    exact seated.linked (linked ▸ l)
  · rw [session, mailbox]
    exact seated.unlinked (linked ▸ l)

theorem Seated.changed {id : SessionId} (s : c.Seated h id) (E : Engine σ) (v : h.Sealed)
    (few : h.directory.enrolments < Directory.numbers) (change : c.Changed h m L c') :
    c'.Seated (Hub.after E h L) id ∧
      Parts id h.isRunning c c' (Hub.acceptedIn E h (L.map .move)) := by
  cases change with
  | kept used needed =>
    obtain ⟨seated, nothing, -⟩ := s.used E v few used
    exact ⟨seated, .inl ⟨used.place.2.2, nothing⟩⟩
  | @released L c' used linked past =>
    obtain ⟨seated, nothing, sealed_still, count, running⟩ := s.used E v few used
    obtain ⟨session, mailbox, same⟩ := used.place
    obtain ⟨retired, closing⟩ := (seated.linked linked).dropped sealed_still E (count ▸ few)
    rw [session] at retired closing
    have last : Hub.after E h (L ++ [.drop c.session]) =
        (Hub.after E h L).act E (.move (.drop c.session)) := Run.after_concat ..
    refine ⟨⟨nofun, fun _ => ?_⟩, .inr ⟨same ▸ linked, rfl, ?_⟩⟩
    · rw [last]
      exact session ▸ retired
    · rw [List.map_append, Hub.acceptedIn, Run.seen_append, ← Hub.acceptedIn, ← Hub.afterActs,
        Hub.afterActs_moves, List.count_append, List.count_eq_zero.mpr nothing, Nat.zero_add]
      show ((Hub.Act.move (.drop c.session)).accepted _ ++ []).count _ = _
      rw [closing, running, List.append_nil]
      cases h.isRunning <;> simp

end Client

namespace Network

variable {σ : Type} {E : Engine σ} {n : Network σ Local}

/-! ## Networks in order -/

/-- A network without clients. -/
def start (engine : σ) (mode : Mode) : Network σ Local :=
  { hub := { engine, mode } }

/-- Whether the hub is in order and each client has its place, which it shares with no other. -/
structure InOrder (n : Network σ Local) : Prop where
  hub : n.hub.Sealed
  numbered : n.hub.directory.Numbered
  steady : ∀ (k : Nat) (c : Client), n.members[k]? = some c → c.Steady
  seated : ∀ (k : Nat) (c : Client), n.members[k]? = some c →
    c.Seated n.hub (c.sessionId n.hub)
  /-- Deliveries are brought to a client that is held. -/
  forwarding : ∀ (k : Nat) (c : Client), n.members[k]? = some c → c.caller.holders ≠ 0 →
    c.role.forwarding
  apart : ∀ (j k : Nat) (c d : Client), n.members[j]? = some c → n.members[k]? = some d → j ≠ k →
    c.session ≠ d.session ∧ c.mailbox ≠ d.mailbox

theorem inOrder_start (engine : σ) (mode : Mode) : (start engine mode).InOrder where
  hub := Hub.sealed_start engine mode
  numbered := .start
  steady := by simp [start]
  seated := by simp [start]
  forwarding := by simp [start]
  apart := by simp [start]

/-- A fair event has a client cloned only by a holder of it. -/
theorem held_of_fair {e : Event} (fair : e.isFair n) {m : Move} (he : e = .own m) {k : Nat}
    {c : Client} (found : n.members[k]? = some c) : m = .clone k → c.caller.holders ≠ 0 := by
  rintro rfl
  subst he
  have fair : (n.members[k]?.all fun c => decide (c.caller.holders ≠ 0)) = true := fair
  rw [found, Option.all_some] at fair
  exact of_decide_eq_true fair

/-- If no deliveries are brought to a client any more, none are brought again. -/
theorem Event.Meets.forwarding_before {e : Event} {k : Nat} {c c' : Client}
    (meets : e.Meets n k c c') (goes_on : c'.role.forwarding) : c.role.forwarding := by
  cases meets with
  | spares other => exact goes_on
  | moves he about change => exact change.forwarding_before goes_on

/-- Where a client comes from that is there after an event, and what becomes of its session. -/
inductive ComesFrom (E : Engine σ) (n : Network σ Local) (e : Event) (k : Nat) (c' : Client) :
    Prop where
  /-- It is just connected, under a number that is given with the event. -/
  | connected (he : e = .own .connect) (last : k = n.members.size) (new : c' = connected n.hub)
    (seated : c'.Seated (n.happen E e).hub n.hub.directory.nextId)
  /-- It was there before, and keeps its place and its number. -/
  | before {c : Client} {id : SessionId} (found : n.members[k]? = some c)
    (place : c'.session = c.session ∧ c'.mailbox = c.mailbox) (seated : c.Seated n.hub id)
    (seated' : c'.Seated (n.happen E e).hub id)
    (parts : Client.Parts id n.hub.isRunning c c' (e.queued E n)) (meets : e.Meets n k c c')

namespace InOrder

theorem moved (o : n.InOrder) (E : Engine σ) (e : Event) :
    ∃ acts, Moved E n (n.happen E e) e acts :=
  n.moved E e fun k c found linked => (o.steady k c found).linked ▸ linked

theorem connected_seated (o : n.InOrder) :
    Client.Seated n.hub.openMailbox.1 n.hub.directory.nextId (connected n.hub) :=
  ⟨fun _ => o.hub.reached_openMailbox, nofun⟩

theorem comes_from (o : n.InOrder) {e : Event} (fair : e.isFair n)
    (few : n.hub.directory.enrolments + (if e.enrols then 1 else 0) < Directory.numbers) {k : Nat}
    {c' : Client} (found' : (n.happen E e).members[k]? = some c') : ComesFrom E n e k c' := by
  obtain ⟨acts, v⟩ := o.moved E e
  have discreet := v.discreet fair
  have few' : n.hub.directory.enrolments + acts.countP Hub.Act.enrols < Directory.numbers := by
    rwa [v.countP_enrols fair]
  have queued := v.queued_eq fair
  rcases v.member_cases found' with ⟨other, found⟩ | ⟨rfl, rfl, last, rfl⟩
    | ⟨m, c, L, rfl, about, rfl, found, change⟩
  · have seated := o.seated k c' found
    have apart : ∀ (j : Nat) (d : Client), j ≠ k → n.members[j]? = some d →
        d.session ≠ c'.session := fun j d ne there => (o.apart j k d c' there found ne).1
    obtain ⟨seated', nothing⟩ :=
      seated.spared E o.hub discreet (v.spares fair found other apart) few'
    exact .before found ⟨rfl, rfl⟩ seated (v.hub_eq ▸ seated') (.inl ⟨rfl, queued ▸ nothing⟩)
      (.spares other)
  · exact .connected rfl last rfl o.connected_seated
  · have seated := o.seated k c found
    obtain ⟨seated', parts⟩ := seated.changed E o.hub (Nat.lt_of_add_right_lt few') change
    rw [← Hub.afterActs_moves, ← v.hub_eq] at seated'
    exact .before found change.place seated seated' (queued ▸ parts) (.moves rfl about change)

theorem happen (o : n.InOrder) {e : Event} (fair : e.isFair n)
    (few : n.hub.directory.enrolments + (if e.enrols then 1 else 0) < Directory.numbers) :
    (n.happen E e).InOrder := by
  obtain ⟨acts, v⟩ := o.moved E e
  have discreet := v.discreet fair
  have few' : n.hub.directory.enrolments + acts.countP Hub.Act.enrols < Directory.numbers := by
    rwa [v.countP_enrols fair]
  exact {
    hub := v.hub_eq ▸ o.hub.acts E discreet few'
    numbered := v.hub_eq ▸ Hub.numbered_afterActs E o.numbered discreet few'
    steady := by
      intro k c' found'
      cases o.comes_from fair few found' with
      | connected he last new => exact new ▸ Client.steady_connected n.hub
      | @before c id found place seated seated' parts meets =>
        cases meets with
        | spares other => exact o.steady k c' found
        | moves he about change =>
          exact (o.steady k c found).changed change about (held_of_fair fair he found)
    seated := by
      intro k c' found'
      cases o.comes_from fair few found' with
      | connected he last new seated => exact seated.sessionId_eq.symm ▸ seated
      | before found place seated seated' => exact seated'.sessionId_eq.symm ▸ seated'
    forwarding := by
      intro k c' found' held'
      cases o.comes_from fair few found' with
      | connected he last new => exact new ▸ rfl
      | @before c id found place seated seated' parts meets =>
        cases meets with
        | spares other => exact o.forwarding k c' found held'
        | moves he about change =>
          exact change.forwarding_of_held (o.steady k c found) about (held_of_fair fair he found)
            (fun linked => (seated.linked linked).isCutOff) (o.forwarding k c found) held'
    apart := by
      intro j k c' d' hc hd ne
      cases o.comes_from fair few hc with
      | connected he last new =>
        cases o.comes_from fair few hd with
        | connected he' last' => exact absurd (last.trans last'.symm) ne
        | before found place seated =>
          rw [new, place.1, place.2]
          exact ⟨Nat.ne_of_gt seated.session_lt, Nat.ne_of_gt seated.mailbox_lt⟩
      | before found place seated =>
        cases o.comes_from fair few hd with
        | connected he last new =>
          rw [new, place.1, place.2]
          exact ⟨Nat.ne_of_lt seated.session_lt, Nat.ne_of_lt seated.mailbox_lt⟩
        | before found' place' =>
          rw [place.1, place.2, place'.1, place'.2]
          exact o.apart j k _ _ found found' ne }

theorem enrolments_happen (o : n.InOrder) {e : Event} (fair : e.isFair n) :
    (n.happen E e).hub.directory.enrolments =
      n.hub.directory.enrolments + if e.enrols then 1 else 0 := by
  obtain ⟨acts, v⟩ := o.moved E e
  rw [v.hub_eq, ← v.countP_enrols fair]
  exact Hub.enrolments_afterActs E n.hub (v.discreet fair)

theorem lasts_of_meets (o : n.InOrder) {e : Event} (fair : e.isFair n) {k : Nat} {c c' : Client}
    (found : n.members[k]? = some c) (meets : e.Meets n k c c') :
    Client.Lasts (if e.calls k then 1 else 0) (fun j => e.isAt k j) c c' := by
  cases meets with
  | spares other =>
    rw [calls_of_other other]
    exact .refl _ c
  | moves he about change =>
    subst he
    exact (o.steady k c found).lasts change about (held_of_fair fair rfl found)

theorem lasts_happen (o : n.InOrder) {e : Event} (fair : e.isFair n) {k : Nat} {c : Client}
    (found : n.members[k]? = some c) : ∃ c', (n.happen E e).members[k]? = some c' ∧
      Client.Lasts (if e.calls k then 1 else 0) (fun j => e.isAt k j) c c' := by
  obtain ⟨acts, v⟩ := o.moved E e
  obtain ⟨c', found', meets⟩ := v.member found
  exact ⟨c', found', o.lasts_of_meets fair found meets⟩

/-- A client stays, and with it what lasts of it. -/
theorem lasts (o : n.InOrder) {events : List Event} (fair : areFair E n events)
    (few : n.hub.directory.enrolments + events.countP Event.enrols < Directory.numbers) {k : Nat}
    {c : Client} (found : n.members[k]? = some c) :
    ∃ c', (afterEvents E n events).members[k]? = some c' ∧
      Client.Lasts (events.countP (Event.calls k)) (fun j => ∃ e ∈ events, e.isAt k j) c c' := by
  induction events generalizing n c with
  | nil => exact ⟨c, found, .refl _ c⟩
  | cons e events ih =>
    rw [areFair_cons, Bool.and_eq_true_iff] at fair
    obtain ⟨now, later⟩ := fair
    rw [List.countP_cons] at few
    obtain ⟨c', found', first⟩ := o.lasts_happen (E := E) now found
    have order := o.happen (E := E) now (by omega)
    obtain ⟨c'', found'', rest⟩ := ih order later (by rw [o.enrolments_happen now]; omega) found'
    refine ⟨c'', found'', ?_⟩
    rw [List.countP_cons, Nat.add_comm]
    simpa only [List.mem_cons, exists_eq_or_imp] using first.trans rest

/-- The mailbox of a client that is not needed any more is cut off once nothing is in flight to
    it. -/
theorem isCutOff_iff (o : n.InOrder) {k : Nat} {c : Client} (found : n.members[k]? = some c)
    (past : c.role.linked = false) :
    n.hub.isCutOff c.mailbox ↔ n.hub.inFlightTo c.mailbox = [] :=
  ((o.seated k c found).unlinked past).severed.isCutOff_iff o.numbered

/-- What is in flight to a client that is not needed any more only becomes less. -/
theorem inFlightTo_happen (o : n.InOrder) {e : Event} (fair : e.isFair n) {k : Nat} {c : Client}
    (found : n.members[k]? = some c) (past : c.role.linked = false) :
    ((n.happen E e).hub.inFlightTo c.mailbox).Subperm (n.hub.inFlightTo c.mailbox) := by
  obtain ⟨acts, v⟩ := o.moved E e
  have severed := ((o.seated k c found).unlinked past).severed
  have flown := severed.addedIn_append_inFlightTo E acts (v.discreet fair)
  rw [← v.hub_eq] at flown
  exact (List.sublist_append_right ..).subperm.trans flown

/-- The forwarding of a client that is not needed any more ends with the next turn in which its
    mailbox is readable. -/
theorem forwarding_ends (o : n.InOrder) {k : Nat} {c : Client} (found : n.members[k]? = some c)
    (past : c.role.linked = false) (readable : n.hub.isReadable c.mailbox) :
    (c.role.forwarding → c.backlog n.hub ≠ 0) ∧ (c.forward n.hub).2.role.forwarding = false := by
  have idle : c.caller.isNeeded = false := (o.steady k c found).linked ▸ past
  exact Client.forward_of_readable (Caller.isNeeded_eq_false_iff.mp idle).1 readable

theorem forwarding_of_forward (o : n.InOrder) {k : Nat} {c c' : Client}
    (found : n.members[k]? = some c) (past : c.role.linked = false)
    (readable : n.hub.isReadable c.mailbox)
    (found' : (n.happen E (.own (.forward k))).members[k]? = some c') :
    c'.role.forwarding = false := by
  have turn : (n.act k Client.forward).members[k]? = some c' := found'
  rw [member_act found Client.forward, Option.some.injEq] at turn
  exact turn ▸ (o.forwarding_ends found past readable).2

/-- What is about one client leaves the others, their sessions and their mailboxes alone, and what
    waits in the queue. -/
theorem others_unaffected (o : n.InOrder) (E : Engine σ)
    (few : n.hub.directory.enrolments < Directory.numbers) {m : Move} {k : Nat}
    (about : m.client? = some k) :
    let n' := n.move E m
    (∀ j ≠ k, n'.members[j]? = n.members[j]?) ∧
    (∃ more, Hub.Queued n.hub n'.hub more) ∧
    ∀ (j : Nat) (d : Client), j ≠ k → n.members[j]? = some d →
      d.Seated n'.hub (d.sessionId n.hub) ∧ n'.hub.unread d.mailbox = n.hub.unread d.mailbox := by
  intro n'
  obtain ⟨acts, v⟩ := o.moved E (.own m)
  refine ⟨fun j other => v.member_of_ne about other, ?_⟩
  cases v with
  | aside he => cases (client?_of_aside he).symm.trans about
  | connected he =>
    cases he
    cases about
  | absent he about' vacant hub =>
    have hub : n'.hub = n.hub := hub
    rw [hub]
    exact ⟨⟨[], Hub.queued_nothing rfl rfl rfl⟩, fun j d _ there => ⟨o.seated j d there, rfl⟩⟩
  | @changed m' k' c c' L he about' found change hub =>
    cases he
    cases about.symm.trans about'
    have hub : n'.hub = Hub.after E n.hub L := hub
    have none_given : (L.map Hub.Act.move).countP Hub.Act.enrols = 0 :=
      List.countP_eq_zero.mpr fun a ha => by simp [(change.acts ha).2.1]
    rw [hub, ← Hub.afterActs_moves]
    refine ⟨⟨_, Hub.queued_afterActs E n.hub fun a ha => (change.acts ha).2.2.1⟩,
      fun j d other there => ⟨?_, ?_⟩⟩
    · have apart := (o.apart j k d c there found other).1
      exact ((o.seated j d there).spared E o.hub (fun a ha => (change.acts ha).1)
        (fun a ha => (change.acts ha).2.2.2 _ _ apart) (by rwa [none_given])).1
    · rw [Hub.afterActs_moves]
      exact Hub.unread_of_uses E n.hub change.uses (o.apart j k d c there found other).2

end InOrder

end Network

end SessionHub
