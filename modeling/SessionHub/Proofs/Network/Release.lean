import SessionHub.Engine.Sources
import SessionHub.Proofs.Network.Places

set_option autoImplicit false

/-! # Sessions end with their clients

The session of a client is closed by the event after which `Caller.isNeeded` fails, and by no other;
`close` is queued once for it (`Accounted`). The `drop` that leaves `holders = 0` cancels the
outstanding calls (`InOrder.cancelled`). The forwarding ends with the first turn after that in which
the mailbox is readable: at once if something is unread, and else when nothing is in flight to the
mailbox any more (`ReleasedBy`). -/

namespace SessionHub.Network

variable {σ : Type} {E : Engine σ} {n : Network σ Local}

/-! ## Runs -/

/-- Whether client `k` is needed before an event and not after it. -/
def Event.Releases (E : Engine σ) (n : Network σ Local) (k : Nat) (e : Event) : Prop :=
  ∃ c c' : Client, n.members[k]? = some c ∧ c.caller.isNeeded ∧
    (n.happen E e).members[k]? = some c' ∧ c'.caller.isNeeded = false

/-- Whether the event `e` has released client `k`, which is `c` after `first ++ e :: rest`. -/
structure ReleasedBy (E : Engine σ) (start : Network σ Local) (k : Nat) (c : Client)
    (id : SessionId) (first : List Event) (e : Event) (rest : List Event) : Prop where
  releases : e.Releases E (afterEvents E start first) k
  /-- One `close` was queued, if the driver was running. -/
  closings : (queuedIn E start (first ++ e :: rest)).count (.close id) =
    if (afterEvents E start first).hub.isRunning then 1 else 0
  /-- Nothing is in flight to the mailbox but what was when `e` had happened. -/
  inFlight : ((afterEvents E start (first ++ e :: rest)).hub.inFlightTo c.mailbox).Subperm
    ((afterEvents E start (first ++ [e])).hub.inFlightTo c.mailbox)
  /-- A turn in which the mailbox was readable has ended the forwarding. -/
  forwarded : ∀ before behind, rest = before ++ .own (.forward k) :: behind →
    (afterEvents E start (first ++ e :: before)).hub.isReadable c.mailbox →
    c.role.forwarding = false

/-- How the closings of a client stand to what has happened: there is none as long as the client is
    needed, and afterwards an event has released it. -/
structure Accounted (E : Engine σ) (start : Network σ Local) (events : List Event) (k : Nat)
    (c : Client) (id : SessionId) : Prop where
  needed : c.role.linked → (queuedIn E start events).count (.close id) = 0
  released : c.role.linked = false → ∃ first e rest, events = first ++ e :: rest ∧
    ReleasedBy E start k c id first e rest

/-- What has released a client is not undone. -/
theorem ReleasedBy.concat {s : Network σ Local} {k : Nat} {c c' : Client} {id : SessionId}
    {first rest : List Event} {e' e : Event} (r : ReleasedBy E s k c id first e' rest)
    (same : c'.mailbox = c.mailbox) :
    let n := afterEvents E s (first ++ e' :: rest)
    .close id ∉ e.queued E n →
    ((n.happen E e).hub.inFlightTo c.mailbox).Subperm (n.hub.inFlightTo c.mailbox) →
    (c'.role.forwarding → c.role.forwarding) →
    (e = .own (.forward k) → n.hub.isReadable c.mailbox → c'.role.forwarding = false) →
    ReleasedBy E s k c' id first e' (rest ++ [e]) := by
  intro n nothing flown before ends
  have longer : first ++ e' :: (rest ++ [e]) = (first ++ e' :: rest) ++ [e] := by simp
  refine ⟨r.releases, ?_, ?_, fun earlier behind parts readable => ?_⟩
  · rw [longer, queuedIn, Run.seen_concat, List.count_append]
    exact congrArg₂ (· + ·) r.closings (List.count_eq_zero.mpr nothing)
  · rw [longer, afterEvents, Run.after_concat, same]
    exact flown.trans r.inFlight
  · rw [same] at readable
    rcases List.eq_nil_or_concat behind with rfl | ⟨behind, last, rfl⟩
    · -- the turn is the last event
      obtain ⟨rfl, now⟩ := List.append_inj' parts rfl
      exact ends (List.singleton_inj.mp now) readable
    · rw [List.concat_eq_append, ← List.cons_append, ← List.append_assoc] at parts
      have ended := r.forwarded earlier behind (List.append_inj' parts rfl).1 readable
      rw [← Bool.not_eq_true] at ended ⊢
      exact fun goes_on => ended (before goes_on)

theorem Accounted.concat {s : Network σ Local} {events : List Event} {e : Event} {k : Nat}
    {c c' : Client} {id : SessionId} (a : Accounted E s events k c id)
    (same : c'.mailbox = c.mailbox) :
    let n := afterEvents E s events
    n.members[k]? = some c → c.Steady → (n.happen E e).members[k]? = some c' → c'.Steady →
    Client.Parts id n.hub.isRunning c c' (e.queued E n) →
    (c'.role.forwarding → c.role.forwarding) →
    (c.role.linked = false →
      ((n.happen E e).hub.inFlightTo c.mailbox).Subperm (n.hub.inFlightTo c.mailbox)) →
    (c.role.linked = false → e = .own (.forward k) → n.hub.isReadable c.mailbox →
      c'.role.forwarding = false) →
    Accounted E s (events ++ [e]) k c' id := by
  intro n found steady found' steady' parts before flown ends
  have count : (queuedIn E s (events ++ [e])).count (.close id) =
      (queuedIn E s events).count (.close id) + (e.queued E n).count (.close id) := by
    rw [queuedIn, Run.seen_concat, List.count_append]
    rfl
  rcases parts with ⟨kept, nothing⟩ | ⟨linked, past, closing⟩
  · rw [List.count_eq_zero.mpr nothing, Nat.add_zero] at count
    refine ⟨fun linked => count.trans (a.needed (kept ▸ linked)), fun past => ?_⟩
    obtain ⟨first, e', rest, rfl, released⟩ := a.released (kept ▸ past)
    exact ⟨first, e', rest ++ [e], by simp,
      released.concat same nothing (flown (kept ▸ past)) before (ends (kept ▸ past))⟩
  · refine ⟨fun linked' => by simp [past] at linked',
      fun _ => ⟨events, e, [], rfl, ?_, ?_, .refl _, by simp⟩⟩
    · exact ⟨c, c', found, steady.linked ▸ linked, found', steady'.linked ▸ past⟩
    · rw [count, a.needed linked, closing, Nat.zero_add]

/-- What is known of a network after some events: it is in order, each event that gives a number
    gives one, closings are accounted for, and the tables of clients are tidy. -/
structure Recorded (E : Engine σ) (s : Network σ Local) (events : List Event)
    (n : Network σ Local) : Prop where
  order : n.InOrder
  count : n.hub.directory.enrolments = events.countP Event.enrols
  given : ∀ id, .close id ∈ queuedIn E s events → id.val.toNat ≤ n.hub.directory.enrolments
  accounted : ∀ (k : Nat) (c : Client), n.members[k]? = some c →
    Accounted E s events k c (c.sessionId n.hub)
  tidy : ∀ (k : Nat) (c : Client), n.members[k]? = some c →
    events.countP (Event.calls k) < UInt64.size →
    ∃ used ≤ events.countP (Event.calls k), c.caller.Tidy used

/-- An event puts closings into the queue only under numbers that have been given. -/
theorem InOrder.given_of_queued (o : n.InOrder) {e : Event} (fair : e.isFair n)
    (few : n.hub.directory.enrolments + (if e.enrols then 1 else 0) < Directory.numbers)
    {id : SessionId} (there : .close id ∈ e.queued E n) :
    id.val.toNat ≤ (n.happen E e).hub.directory.enrolments := by
  obtain ⟨acts, v⟩ := o.moved E e
  rw [o.enrolments_happen fair, ← v.countP_enrols fair]
  rw [v.queued_eq fair] at there
  exact o.hub.given_of_accepted E (v.discreet fair) (v.countP_enrols fair ▸ few) there

/-- There is no closing yet under the number that is given next. -/
theorem Recorded.unclosed {s : Network σ Local} {events : List Event} (r : Recorded E s events n)
    (room : n.hub.directory.enrolments + 1 < Directory.numbers) :
    (queuedIn E s events).count (.close n.hub.directory.nextId) = 0 := by
  rw [List.count_eq_zero]
  intro there
  have given := r.given _ there
  rw [Directory.toNat_nextId room] at given
  exact Nat.not_succ_le_self _ given

theorem Recorded.concat {s : Network σ Local} {events : List Event} {e : Event}
    (r : Recorded E s events (afterEvents E s events)) (fair : e.isFair (afterEvents E s events))
    (few : (events ++ [e]).countP Event.enrols < Directory.numbers) :
    Recorded E s (events ++ [e]) ((afterEvents E s events).happen E e) := by
  rw [List.countP_append, List.countP_singleton, ← r.count] at few
  have queued : queuedIn E s (events ++ [e]) =
      queuedIn E s events ++ e.queued E (afterEvents E s events) := Run.seen_concat ..
  have unclosed := r.unclosed
  obtain ⟨order, count, given, accounted, tidy⟩ := r
  have order' : ((afterEvents E s events).happen E e).InOrder := order.happen fair few
  have enrolments := order.enrolments_happen (E := E) fair
  refine ⟨order', ?_, fun id there => ?_, fun k c' found' => ?_, fun k c' found' calls => ?_⟩
  · rw [enrolments, count, List.countP_append, List.countP_singleton]
  · rw [queued, List.mem_append] at there
    rcases there with earlier | new
    · rw [enrolments]
      exact Nat.le_add_right_of_le (given id earlier)
    · exact order.given_of_queued fair few new
  · cases order.comes_from fair few found' with
    | connected he last new seated =>
      -- its number was not given before
      subst he new
      have none_queued : (Event.own .connect).queued E (afterEvents E s events) = [] :=
        List.drop_length
      rw [seated.sessionId_eq]
      refine ⟨fun _ => ?_, nofun⟩
      rw [queued, none_queued, List.append_nil]
      exact unclosed few
    | @before c id found place seated seated' parts meets =>
      rw [seated'.sessionId_eq]
      have account := accounted k c found
      rw [seated.sessionId_eq] at account
      refine account.concat place.2 found (order.steady k c found) found'
        (order'.steady k c' found')
        parts meets.forwarding_before (order.inFlightTo_happen fair found) ?_
      rintro past rfl readable
      exact order.forwarding_of_forward found past readable found'
  · rw [List.countP_append, List.countP_singleton] at calls ⊢
    cases order.comes_from fair few found' with
    | connected he last new => exact ⟨0, Nat.zero_le _, new ▸ Caller.tidy_start⟩
    | @before c id found place seated seated' parts meets =>
      obtain ⟨used, less, table⟩ := tidy k c found (by omega)
      have lasts := order.lasts_of_meets fair found meets
      exact ⟨_, Nat.add_le_add_right less _, lasts.tidy used table (by omega)⟩

theorem recorded (E : Engine σ) (engine : σ) (mode : Mode) (events : List Event)
    (fair : areFair E (start engine mode) events)
    (few : events.countP Event.enrols < Directory.numbers) :
    Recorded E (start engine mode) events (afterEvents E (start engine mode) events) := by
  revert fair few
  refine Run.after_induction (happen E) (motive := fun events n =>
    areFair E (start engine mode) events → events.countP Event.enrols < Directory.numbers →
      Recorded E (start engine mode) events n) (start engine mode) ?_ ?_ events
  · intro _ _
    exact ⟨inOrder_start engine mode, rfl, nofun, by simp [start], by simp [start]⟩
  · intro events e ih fair few
    rw [areFair_concat, Bool.and_eq_true_iff] at fair
    refine (ih fair.1 ?_).concat fair.2 few
    rw [List.countP_append] at few
    exact Nat.lt_of_le_of_lt (Nat.le_add_right _ _) few

/-! ## Clients without holders -/

/-- The `drop` of the last holder of a client cancels its calls, and the client is not held
    again. -/
theorem InOrder.cancelled (o : n.InOrder) {k : Nat} {later : List Event}
    (fair : areFair E n (.own (.drop k) :: later))
    (few : n.hub.directory.enrolments + later.countP Event.enrols < Directory.numbers) {c : Client}
    (found : n.members[k]? = some c) (last : c.caller.holders = 1) :
    ∃ c', (afterEvents E n (.own (.drop k) :: later)).members[k]? = some c' ∧
      c'.caller.holders = 0 ∧ c'.caller.sends.Sublist c.caller.sends ∧
      ∀ used, c.caller.Tidy used → used + later.countP (Event.calls k) < UInt64.size →
        ∀ j, c.caller.isWaiting j → (∀ e ∈ later, e.isAt k j = false) →
          c'.caller.result? j = some (.error .cancelled) := by
  rw [areFair_cons, Bool.and_eq_true_iff] at fair
  have order : (n.happen E (.own (.drop k))).InOrder :=
    o.happen fair.1 (Nat.lt_of_le_of_lt (Nat.le_add_right _ _) few)
  obtain ⟨d, found', same⟩ := caller_of_owned (E := E) (m := .drop k) (a := .letGo) rfl found
  have enrolments := o.enrolments_happen (E := E) fair.1
  obtain ⟨c', found'', lasts⟩ := order.lasts fair.2 (by rw [enrolments]; exact few) found'
  have unheld : d.caller.holders = 0 := by
    rw [same, Caller.holders_move, last]
  have idle := lasts.idle unheld
  rw [same, c.caller.sends_move rfl] at idle
  refine ⟨c', found'', idle.1, idle.2, fun used tidy calls j waits left => ?_⟩
  have tidy' : (c.caller.move .letGo).Tidy used :=
    (tidy.act .letGo (Nat.lt_of_le_of_lt (Nat.le_add_right _ _) calls)).1
  refine lasts.result used (same ▸ tidy') calls j _ ?_ ?_
  · rintro ⟨e, he, comes⟩
    rw [left e he] at comes
    cases comes
  · rw [same]
    exact tidy.result?_letGo last waits

/-- A send that is carried out leaves `sends`, and `holders` stay as they are. -/
theorem sends_send (E : Engine σ) {k : Nat} {c : Client} (found : n.members[k]? = some c)
    (i : Nat) : ∃ c', (n.move E (.send k i)).members[k]? = some c' ∧
      c'.caller.sends = c.caller.sends.eraseIdx i ∧ c'.caller.holders = c.caller.holders := by
  have acted := member_act (member_act found (Client.sendAt i)) Client.tidy
  refine ⟨_, acted, ?_⟩
  obtain ⟨L, d, used, same⟩ := Client.sendAt_used E k i n.hub c
  rw [Client.caller_tidy, same]
  exact used.of_send

/-- Client `c` of a network while it is needed, `queued` being the commands that were queued so far:
    its session is open and listed under its mailbox, and no `close` was queued for it. -/
structure InUse (n : Network σ Local) (queued : List Command) (c : Client) : Prop where
  session : n.hub.sessions[c.session]? = some { id := c.sessionId n.hub }
  entry : n.hub.directory.callback? (c.sessionId n.hub) = some (.mailbox c.mailbox)
  closings : queued.count (.close (c.sessionId n.hub)) = 0
  forwarding : c.caller.holders ≠ 0 → c.role.forwarding

/-- Client `k`, which is `c` after some events and is not needed any more: its session is closed and
    not listed, and one `close` was queued for it if the driver was running at its release. The next
    turn in which the mailbox is readable ends the forwarding. The mailbox is readable if something
    is unread or nothing is in flight to it, and what is in flight only becomes less. -/
structure Released (E : Engine σ) (start : Network σ Local) (events : List Event) (k : Nat)
    (c : Client) : Prop where
  session : (afterEvents E start events).hub.sessions[c.session]? =
    some { id := c.sessionId (afterEvents E start events).hub, closed := true }
  unlisted : (afterEvents E start events).hub.directory.contains
    (c.sessionId (afterEvents E start events).hub) = false
  releasedBy : ∃ first e rest, events = first ++ e :: rest ∧
    ReleasedBy E start k c (c.sessionId (afterEvents E start events).hub) first e rest
  cutOff_iff : (afterEvents E start events).hub.isCutOff c.mailbox ↔
    (afterEvents E start events).hub.inFlightTo c.mailbox = []
  /-- The driver completes its delivery with its next step, and begins none to the mailbox. -/
  drives : ((afterEvents E start events).hub.step E).inFlightTo c.mailbox =
    (afterEvents E start events).hub.deliveries.flatMap (·.bytesTo c.mailbox)
  turn : (afterEvents E start events).hub.isReadable c.mailbox →
    (c.role.forwarding → c.backlog (afterEvents E start events).hub ≠ 0) ∧
    (c.forward (afterEvents E start events).hub).2.role.forwarding = false

/-- Client `k`, which was `c₀` when it was dropped for the last time, and is `c` after the events
    `later`. The bound is on the calls that were ever issued, for identities are `UInt64`. -/
structure CallsCancelled (k calls : Nat) (later : List Event) (c₀ c : Client) : Prop where
  holders : c.caller.holders = 0
  table : c.caller.table = []
  sends : c.caller.sends.Sublist c₀.caller.sends
  /-- Each call that was pending resolves to `cancelled`, unless its ticket was used meanwhile. -/
  result : calls < UInt64.size → ∀ j, c₀.caller.isWaiting j → (∀ e ∈ later, e.isAt k j = false) →
    c.caller.result? j = some (.error .cancelled)

/-- Whether `n'` differs from `n` at most in client `k`, its session and its mailbox, and by more
    commands in the queue, as far as the engine, the driver and clients can tell. -/
structure SparesOthers (k : Nat) (n n' : Network σ Local) : Prop where
  engine : n'.hub.engine = n.hub.engine
  phase : n'.hub.phase = n.hub.phase
  queue : ∃ more, n'.hub.queue = n.hub.queue ++ more
  member : ∀ (j : Nat) (d : Client), j ≠ k → n.members[j]? = some d → n'.members[j]? = some d
  session : ∀ (j : Nat) (d : Client), j ≠ k → n.members[j]? = some d →
    n'.hub.sessions[d.session]? = n.hub.sessions[d.session]?
  entry : ∀ (j : Nat) (d : Client), j ≠ k → n.members[j]? = some d →
    n'.hub.directory.callback? (d.sessionId n.hub) = n.hub.directory.callback? (d.sessionId n.hub)
  unread : ∀ (j : Nat) (d : Client), j ≠ k → n.members[j]? = some d →
    n'.hub.unread d.mailbox = n.hub.unread d.mailbox

/-- The life of client `k`, which is `c` after some events. -/
structure LastsAsNeeded (E : Engine σ) (start : Network σ Local) (events : List Event) (k : Nat)
    (c : Client) : Prop where
  inUse : c.caller.holders ≠ 0 ∨ c.caller.sends ≠ [] →
    InUse (afterEvents E start events) (queuedIn E start events) c
  released : c.caller.holders = 0 ∧ c.caller.sends = [] → Released E start events k c
  cancelled : ∀ (first later : List Event) (c₀ : Client),
    events = first ++ .own (.drop k) :: later →
    (afterEvents E start first).members[k]? = some c₀ → c₀.caller.holders = 1 →
    CallsCancelled k (events.countP (Event.calls k)) later c₀ c
  /-- A send that is carried out leaves `sends`, so that a client without holders is released at
      last. -/
  sent : ∀ i, ∃ c', ((afterEvents E start events).move E (.send k i)).members[k]? = some c' ∧
    c'.caller.sends = c.caller.sends.eraseIdx i ∧ c'.caller.holders = c.caller.holders
  others : ∀ m : Move, m.client? = some k →
    SparesOthers k (afterEvents E start events) ((afterEvents E start events).move E m)

/-- In every run of clients on a hub that serves others too, the session of a client is open, listed
    and led to its mailbox as long as `holders ≠ 0`, also after `terminate`, or a call has still to
    be sent (`inUse`). The event after which neither is so closes the session and takes it off the
    directory for good; `close` is queued once if the driver runs, and the forwarding ends with the
    next turn in which the mailbox is readable (`released`). The `drop` of the last holder cancels
    all pending calls, and the client is not held again (`cancelled`). Moves about one client leave
    the others, their sessions and their mailboxes alone (`others`). -/
theorem session_lasts_as_client_is_needed (E : Engine σ) (engine : σ) (mode : Mode)
    (events : List Event) (fair : areFair E (start engine mode) events)
    (few : events.countP Event.enrols < Directory.numbers) {k : Nat} {c : Client}
    (found : (afterEvents E (start engine mode) events).members[k]? = some c) :
    LastsAsNeeded E (start engine mode) events k c := by
  let s := start engine mode
  let n := afterEvents E s events
  have r := recorded E engine mode events fair few
  have steady := r.order.steady k c found
  have seated := r.order.seated k c found
  have account := r.accounted k c found
  constructor
  case inUse =>
    intro needed
    have linked := steady.linked.trans (Caller.isNeeded_iff.mpr needed)
    have reached := seated.linked linked
    exact ⟨reached.session, reached.entry, account.needed linked, r.order.forwarding k c found⟩
  case released =>
    intro idle
    have past := steady.linked.trans (Caller.isNeeded_eq_false_iff.mpr idle)
    have retired := seated.unlinked past
    refine ⟨retired.session, ?_, account.released past, r.order.isCutOff_iff found past,
      Hub.inFlightTo_step retired.severed.unreached, r.order.forwarding_ends found past⟩
    rw [Directory.contains, retired.absent]
    rfl
  case cancelled =>
    intro first later c₀ parts found₀ last
    subst parts
    rw [areFair_append, Bool.and_eq_true_iff] at fair
    rw [List.countP_append, List.countP_cons_of_neg (by exact Bool.false_ne_true)] at few
    have before :=
      recorded E engine mode first fair.1 (Nat.lt_of_le_of_lt (Nat.le_add_right _ _) few)
    obtain ⟨c', found', unheld, fewer, cancelled⟩ :=
      before.order.cancelled fair.2 (before.count ▸ few) found₀ last
    have same : afterEvents E (afterEvents E s first) (.own (.drop k) :: later) = n :=
      (Run.after_append ..).symm
    obtain rfl : c' = c := by
      rw [same] at found'
      exact Option.some.inj (found'.symm.trans found)
    have empty := steady.keyed.closed (steady.abandoned unheld)
    refine ⟨unheld, empty, fewer, fun calls j waits left => ?_⟩
    rw [List.countP_append, List.countP_cons_of_neg (by exact Bool.false_ne_true)] at calls
    obtain ⟨used, less, tidy⟩ := before.tidy k c₀ found₀ (by omega)
    exact cancelled used tidy (by omega) j waits left
  case sent => exact sends_send E found
  case others =>
    intro m about
    obtain ⟨same, ⟨more, queued⟩, places⟩ :=
      r.order.others_unaffected E (r.count ▸ few) about
    refine ⟨queued.engine, queued.phase, ⟨more, queued.queue⟩,
      fun j d other there => (same j other).trans there, ?_, ?_, ?_⟩
    all_goals
      intro j d other there
      have before := r.order.seated j d there
      obtain ⟨after, unread⟩ := places j d other there
    · exact after.session.trans before.session.symm
    · exact after.callback?_eq.trans before.callback?_eq.symm
    · exact unread

/-- One of two clients is dropped while a call of it is pending and has still to be sent. -/
theorem session_of_client_let_go_of :
    let first : List Event := [.own .connect, .own .connect, .own (.call 0 "save" [] [])]
    let later : List Event := [.own (.send 0 0), .own (.forward 0)]
    let n := afterEvents Sources.engine (start {} .cooperative) (first ++ .own (.drop 0) :: later)
    n.hub.directory.contains ⟨1⟩ = false ∧ n.hub.directory.contains ⟨2⟩ ∧
      ∃ c, n.members[0]? = some c ∧ c.role.forwarding = false ∧
        c.caller.result? 0 = some (.error .cancelled) := by
  intro first later n
  let before := afterEvents Sources.engine (start {} .cooperative) first
  have there : n.members[0]?.isSome ∧ before.members[0]?.isSome := by decide +kernel
  have idle : n.members[0]?.all fun c =>
      Client.sessionId n.hub c = ⟨1⟩ && !c.caller.isNeeded && !c.role.forwarding := by
    decide +kernel
  have outstanding : before.members[0]?.all fun c =>
      c.caller.holders = 1 && c.caller.isWaiting 0 := by
    decide +kernel
  obtain ⟨⟨c, found⟩, c₀, found₀⟩ :=
    there.imp Option.isSome_iff_exists.mp Option.isSome_iff_exists.mp
  rw [found, Option.all_some, Bool.and_eq_true_iff, Bool.and_eq_true_iff, decide_eq_true_eq,
    Bool.not_eq_true', Bool.not_eq_true'] at idle
  obtain ⟨⟨number, past⟩, ended⟩ := idle
  rw [found₀, Option.all_some, Bool.and_eq_true_iff, decide_eq_true_eq] at outstanding
  have lasts := session_lasts_as_client_is_needed Sources.engine {} .cooperative
    (first ++ .own (.drop 0) :: later) (by decide +kernel) (by decide) found
  have released := lasts.released (Caller.isNeeded_eq_false_iff.mp past)
  have cancelled := lasts.cancelled first later c₀ rfl found₀ outstanding.1
  exact ⟨number ▸ released.unlisted, by decide +kernel, c, found, ended,
    cancelled.result (by decide) 0 outstanding.2 (by decide)⟩

end SessionHub.Network
