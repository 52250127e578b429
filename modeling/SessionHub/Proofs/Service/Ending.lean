import SessionHub.Engine.Sources
import SessionHub.Proofs.Service.Places

set_option autoImplicit false

/-! # Connections whose loops have ended

A loop ends when a frame cannot be written, when there are no deliveries any more, or at something
that comes in (`ends_iff`). Whatever it was, the session is closed and struck off, one closing goes
to a driver that runs, the outstanding calls are cancelled and no new ones are taken. All of this
lasts, and other connections are not touched (`end_cleans_up`). -/

namespace SessionHub

namespace Connection

variable {σ : Type} {h : Hub σ} {c : Connection}

/-! ## What ends a loop -/

/-- Whether the loop of session `k` ends when it takes `a` in: the peer ends the connection or
    breaks its rules, or its request is refused. -/
def EndsAt (h : Hub σ) (k : Nat) (a : Arrival) : Prop :=
  frameLimit < a.size ∨
    match a with
    | .binary bytes => (h.request k bytes).2.isOk = false
    | .ping bytes => pingLimit < bytes.length
    | .text _ | .pong _ => False
    | .close | .ended | .failed _ => True

/-- Why a loop ends with its next turn. -/
inductive Ends (h : Hub σ) (c : Connection) : Prop where
  | undelivered (waits : h.unread c.mailbox ≠ []) (broken : c.role.unwritable.isSome)
  | cutOff (read : h.unread c.mailbox = []) (cut : h.isCutOff c.mailbox)
  | unsent (read : h.unread c.mailbox = []) (attended : ¬ h.isCutOff c.mailbox)
    (waits : c.role.outbound ≠ []) (broken : c.role.unwritable.isSome)
  | arrival {a : Arrival} (arrives : c.arrival? h = some a) (ends : EndsAt h c.session a)

theorem looping_finish (h : Hub σ) (c : Connection) (result : Except String Unit) :
    (c.finish h result).2.role.looping = false := by
  unfold finish
  rfl

theorem writeOn_ends_iff (looping : c.role.looping) (f : Frame) :
    (c.writeOn h f).2.role.looping = false ↔ c.role.unwritable.isSome := by
  cases writing : c.role.unwritable with
  | none => simp [writeOn_of_writable writing, looping]
  | some reason => simp [writeOn_of_unwritable writing, looping_finish]

theorem request_ends_iff (looping : c.role.looping) (bytes : Bytes) :
    (c.request h bytes).2.role.looping = false ↔ (h.request c.session bytes).2.isOk = false := by
  unfold Connection.request
  cases requested : h.request c.session bytes with
  | mk h₁ answer =>
    cases answer with
    | error e => simp [looping_finish, Except.isOk, Except.toBool]
    | ok _ =>
      -- then the poll is accepted, too
      have accepted : (h.request c.session bytes).2.isOk := by rw [requested]; rfl
      have polls := poll_of_request accepted
      rw [requested] at polls
      cases polled : h₁.poll c.session with
      | mk h₂ answer =>
        cases answer with
        | error e =>
          rw [polled] at polls
          cases polls
        | ok _ => simp [polled, looping, Except.isOk, Except.toBool]

theorem handle_ends_iff (looping : c.role.looping) (a : Arrival) :
    (c.handle h a).2.role.looping = false ↔ EndsAt h c.session a := by
  unfold handle EndsAt
  by_cases long : frameLimit < a.size
  · simp [long, looping_finish]
  · rw [if_neg long, or_iff_right long]
    cases a with
    | binary bytes => exact request_ends_iff looping bytes
    | text bytes => simp [looping]
    | ping bytes =>
      by_cases big : pingLimit < bytes.length
      · simp [big, looping_finish]
      · obtain ⟨written, same, -⟩ := write_cases c (.pong bytes)
        simp [big, same, looping]
    | pong bytes => simp [looping]
    | close => simp [looping_finish]
    | ended => simp [looping_finish]
    | failed reason => simp [looping_finish]

/-- A turn ends the loop for one of these reasons and for no other. -/
theorem serve_ends_iff (looping : c.role.looping) :
    (c.serve h).2.role.looping = false ↔ c.Ends h := by
  constructor
  · intro past
    cases waits : h.unread c.mailbox with
    | cons bytes rest =>
      rw [serve_of_unread looping waits, writeOn_ends_iff looping] at past
      exact .undelivered (by simp [waits]) past
    | nil =>
      by_cases cut : h.isCutOff c.mailbox
      · exact .cutOff waits cut
      cases out : c.role.outbound with
      | cons p rest =>
        rw [serve_of_outbound looping waits cut out] at past
        exact .unsent waits cut (by simp [out])
          ((writeOn_ends_iff (c := { c with role.outbound := rest }) looping _).mp past)
      | nil =>
        cases arrives : c.arrival? h with
        | some a =>
          obtain ⟨rest, served⟩ := serve_of_arrival arrives
          rw [served] at past
          exact .arrival arrives
            ((handle_ends_iff (c := { c with role.inbound := rest }) looping a).mp past)
        | none =>
          rw [serve_of_idle looping waits cut out arrives, looping] at past
          cases past
  · rintro (⟨waits, broken⟩ | ⟨read, cut⟩ | ⟨read, attended, waits, broken⟩ | ⟨arrives, ends⟩)
    · obtain ⟨bytes, rest, waits⟩ := List.exists_cons_of_ne_nil waits
      rw [serve_of_unread looping waits]
      exact (writeOn_ends_iff looping _).mpr broken
    · rw [serve_of_cutOff looping read cut]
      exact looping_finish ..
    · obtain ⟨p, rest, waits⟩ := List.exists_cons_of_ne_nil waits
      rw [serve_of_outbound looping read attended waits]
      exact (writeOn_ends_iff (c := { c with role.outbound := rest }) looping _).mpr broken
    · obtain ⟨rest, served⟩ := serve_of_arrival arrives
      rw [served]
      exact (handle_ends_iff (c := { c with role.inbound := rest }) looping _).mpr ends

end Connection

namespace Service

variable {σ : Type}

/-! ## When a loop ends -/

/-- A loop ends in a turn of its own, for one of the reasons that there are, and in no other
    move. -/
theorem ends_iff (E : Engine σ) {n : Network σ Socket} (m : Move) {k : Nat} {c c' : Connection}
    (found : n.members[k]? = some c) (looping : c.role.looping)
    (found' : (move E n m).members[k]? = some c') :
    c'.role.looping = false ↔ m = .serve k ∧ c.Ends n.hub := by
  by_cases turn : m = .serve k
  · subst turn
    cases (Network.member_act found Connection.serve).symm.trans found'
    rw [and_iff_right rfl]
    exact Connection.serve_ends_iff looping
  · obtain ⟨L, v⟩ := moved E n m
    obtain ⟨d, there, change⟩ := v.member found
    cases found'.symm.trans there
    have goes_on : c'.role.looping := by
      rcases change with ⟨-, rfl⟩ | ⟨about, change⟩
      · exact looping
      · cases change with
        | turn => exact absurd (congrArg Move.serve (Option.some.inj about)) turn
        | _ => exact looping
    simp [turn, goes_on]

/-! ## Callers -/

/-- What is always true of the caller of a connection. -/
structure Sealed (c : Connection) : Prop where
  keyed : c.caller.Keyed
  closed : c.role.looping = false → c.caller.closed

theorem Sealed.changed {h : Hub σ} {c c' : Connection} {m : Move} {L : List Hub.Move}
    (v : Sealed c) (change : Changed h c m L c') : Sealed c' where
  keyed := change.caller_induction (fun _ _ keyed => keyed.of_same rfl rfl rfl)
    (fun _ a keyed => keyed.move a) v.keyed
  closed past := by
    obtain ⟨-, -, ⟨same, -⟩ | ⟨-, -, caller, -⟩⟩ := change.goes_on_or_ends
    · exact change.caller_induction (motive := fun d => d.closed) (fun _ _ closed => closed)
        (fun _ a closed => Caller.closed_move closed a) (v.closed (same ▸ past))
    · rw [caller]
      exact Caller.closed_move (c := c.caller.terminate.1) rfl .letGo

theorem sealed_after (E : Engine σ) (engine : σ) (mode : Mode) (moves : List Move) {k : Nat}
    {c : Connection} (found : (after E (start engine mode) moves).members[k]? = some c) : Sealed c :=
  history_induction (motive := fun _ c => Sealed c) engine mode
    (fun _ _ => ⟨Caller.keyed_start _, nofun⟩)
    (fun _ _ _ _ _ _ _ change v => v.changed change) moves found

/-- Calls that are outstanding when the loop ends are cancelled. -/
theorem cancelled_at_end {c : Caller} (keyed : c.Keyed) {id : MessageId} {j : Nat}
    (entry : (id, j) ∈ c.table) :
    ∃ t, c.terminate.1.letGo.1.tickets[j]? = some t ∧ t.id = id ∧
      t.result = some (.error .cancelled) := by
  have same : c.terminate.1.letGo.1.tickets = c.terminate.1.tickets := by
    unfold Caller.letGo
    dsimp only
    split <;> rfl
  rw [same]
  exact keyed.cancelled entry

/-! ## Closings -/

/-- The closings that moves about connection `k` put into the queue, in order. -/
def closings (E : Engine σ) (k : Nat) (n : Network σ Socket) (moves : List Move) : List Command :=
  Run.seen (move E) (fun n m =>
    if m.connection? = some k then
      ((move E n m).hub.queue.drop n.hub.queue.length).filter Command.isClose
    else []) n moves

/-- A move that ends no loop puts no closing into the queue. -/
theorem closings_eq_nil {E : Engine σ} {n n' : Network σ Socket} {m : Move} {L : List Hub.Move}
    (v : Moved E n n' m L) {k : Nat} (about : m.connection? = some k)
    (goes_on : ∀ c c' : Connection, n.members[k]? = some c → n'.members[k]? = some c' →
      c'.role.looping = c.role.looping) :
    (n'.hub.queue.drop n.hub.queue.length).filter Command.isClose = [] := by
  cases v with
  | aside hm hub members => cases (connection?_of_aside hm).1.symm.trans about
  | accepted hm r hub members =>
    subst hm
    cases about
  | absent hm vacant hub members =>
    rw [hub, List.drop_length]
    rfl
  | @changed j c c' _ hm found change hub members =>
    cases hm.symm.trans about
    have found' : n'.members[k]? = some c' := by
      rw [members, Network.members_set found, if_pos rfl]
    obtain ⟨-, -, ⟨-, plain⟩ | ⟨looping, past, -⟩⟩ := change.goes_on_or_ends
    · have queued := n.hub.queued_of_plain E plain
      rw [hub, queued.queue, List.drop_left]
      refine List.filter_eq_nil_iff.mpr fun command hc => ?_
      rw [n.hub.accepted_of_plain E plain command hc]
      exact Bool.false_ne_true
    · rw [goes_on c c' found found', looping] at past
      cases past

theorem closings_of_looping (E : Engine σ) (engine : σ) (mode : Mode) (moves : List Move) {k : Nat}
    (looping : ∀ c : Connection, (after E (start engine mode) moves).members[k]? = some c →
      c.role.looping) : closings E k (start engine mode) moves = [] := by
  revert looping
  refine Run.after_induction (Service.move E) (motive := fun moves n =>
    (∀ c : Connection, n.members[k]? = some c → c.role.looping) →
      closings E k (start engine mode) moves = []) (start engine mode) (fun _ => rfl) ?_ moves
  intro moves m ih looping
  obtain ⟨L, v⟩ := moved E (after E (start engine mode) moves) m
  have before : ∀ c : Connection, (after E (start engine mode) moves).members[k]? = some c →
      c.role.looping := by
    intro c found
    obtain ⟨c', found', -⟩ := v.member found
    rcases v.loop_cases found found' with same | ⟨-, looping, -⟩
    · rw [← same]
      exact looping c' found'
    · exact looping
  rw [closings, Run.seen_concat, ← closings, ih before, List.nil_append]
  split
  · next about =>
    refine closings_eq_nil v about fun c c' found found' => ?_
    rw [before c found, looping c' found']
  · rfl

/-- A loop that has ended does not begin again, and nothing more is closed. -/
theorem after_end (E : Engine σ) {n : Network σ Socket} {k : Nat} {c : Connection}
    (found : n.members[k]? = some c) (past : c.role.looping = false) (more : List Move) :
    closings E k n more = [] ∧
      ∃ d : Connection, (after E n more).members[k]? = some d ∧ d.role.looping = false := by
  refine Run.after_induction (Service.move E) (motive := fun more n' => closings E k n more = [] ∧
    ∃ d : Connection, n'.members[k]? = some d ∧ d.role.looping = false) n ⟨rfl, c, found, past⟩ ?_
    more
  rintro more m ⟨none_yet, d, there, past⟩
  obtain ⟨L, v⟩ := moved E (Run.after (Service.move E) n more) m
  obtain ⟨d', there', -⟩ := v.member there
  have same : d'.role.looping = d.role.looping := by
    rcases v.loop_cases there there' with same | ⟨-, looping, -⟩
    · exact same
    · rw [past] at looping
      cases looping
  refine ⟨?_, d', there', same.trans past⟩
  rw [closings, Run.seen_concat, ← closings, none_yet, List.nil_append]
  split
  · next about =>
    refine closings_eq_nil v about fun c c' found found' => ?_
    cases there.symm.trans found
    cases there'.symm.trans found'
    exact same
  · rfl

/-- The closings of a connection whose loop has ended are those of the move that ended it. -/
theorem closings_of_end (E : Engine σ) (engine : σ) (mode : Mode) (moves : List Move) (m : Move)
    (more : List Move) {k : Nat} {c c' : Connection} {closing : List Command} :
    let start := start engine mode
    let n := after E start moves
    let n' := move E n m
    m.connection? = some k → n.members[k]? = some c → c.role.looping →
    n'.members[k]? = some c' → c'.role.looping = false →
    n'.hub.queue = n.hub.queue ++ closing → closing.filter Command.isClose = closing →
    closings E k start (moves ++ m :: more) = closing := by
  intro start n n' about found looping found' past queue closes
  have before : closings E k start moves = [] :=
    closings_of_looping E engine mode moves fun d there => by
      cases found.symm.trans there
      exact looping
  obtain ⟨nothing_more, -⟩ := after_end E found' past more
  rw [closings, Run.seen_append, ← closings, before, Run.seen_cons]
  show [] ++ ((if m.connection? = some k then
    (n'.hub.queue.drop n.hub.queue.length).filter Command.isClose else []) ++
      closings E k n' more) = closing
  rw [nothing_more, if_pos about, queue, List.drop_left, List.append_nil, List.nil_append]
  exact closes

/-! ## The law -/

/-- What the end of a connection with the number `id` puts into the queue of `h`. -/
def closing (h : Hub σ) (id : SessionId) : List Command :=
  if h.isRunning then [.close id] else []

/-- A move from `n` to `n'`, before which `accepted` connections were accepted, cleans up after
    connection `k`, which is `c` before it and `c'` after it. -/
structure CleansUp (n n' : Network σ Socket) (accepted k : Nat) (c c' : Connection) : Prop where
  unlisted : n'.hub.directory.contains (c.sessionId n.hub) = false
  session : n'.hub.sessions[c.session]? = some { id := c.sessionId n.hub, closed := true }
  queue : n'.hub.queue = n.hub.queue ++ closing n.hub (c.sessionId n.hub)
  /-- Each pending call resolves to `cancelled`. -/
  cancelled : ∀ entry ∈ c.caller.table, ∃ t, c'.caller.tickets[entry.2]? = some t ∧
    t.id = entry.1 ∧ t.result = some (.error .cancelled)
  members : ∀ j ≠ k, n'.members[j]? = n.members[j]?
  entries : ∀ other ≠ c.sessionId n.hub,
    n'.hub.directory.callback? other = n.hub.directory.callback? other
  /-- The other entries are those of the other connections, unless a `UInt32` was given twice. -/
  numbers : accepted < UInt32.size → ∀ j ≠ k, ∀ d : Connection, n.members[j]? = some d →
    d.sessionId n.hub ≠ c.sessionId n.hub

/-- Connection `k` stays cleaned up in `later`, before which `accepted` connections were accepted;
    it was `c` when its loop ended after `n`. -/
structure StaysEnded (n later : Network σ Socket) (accepted k : Nat) (c : Connection) : Prop where
  session : later.hub.sessions[c.session]? = some { id := c.sessionId n.hub, closed := true }
  /-- Its number is not given again, unless a `UInt32` was given twice. -/
  unlisted : accepted < UInt32.size → later.hub.directory.contains (c.sessionId n.hub) = false
  /-- `Caller.issue` fails with `terminated`, also for a clone of the caller that outlives it. -/
  refuses : ∃ d, later.members[k]? = some d ∧ d.caller.table = [] ∧ ∀ method args named,
    d.caller.issue true method args named =
      ({ d.caller with next := d.caller.next + 1 }, .error .terminated, [])

theorem isClose_of_closing (h : Hub σ) (id : SessionId) :
    (closing h id).filter Command.isClose = closing h id := by
  unfold closing
  split <;> rfl

/-- A move that ends a loop is about its connection and cleans up after it. -/
theorem cleans_up_of_end (E : Engine σ) {n : Network σ Socket} (placed : Placed n) {k : Nat}
    {c c' : Connection} (v : Sealed c) (m : Move) (found : n.members[k]? = some c)
    (looping : c.role.looping) (found' : (move E n m).members[k]? = some c')
    (past : c'.role.looping = false) :
    m.connection? = some k ∧ CleansUp n (move E n m) n.members.size k c c' := by
  have number : c.sessionId n.hub = Hub.sessionId k := placed.sessionId_eq found
  obtain ⟨L, moves⟩ := moved E n m
  rcases moves.loop_cases found found' with same | ⟨about, -, caller, left, result, leaving, hub⟩
  · rw [past, looping] at same
    cases same
  obtain ⟨sessions, directory, -, -, queue⟩ := placed.hub_of_end E found looping leaving result
  rw [← hub] at sessions directory queue
  rw [← number] at directory queue
  refine ⟨about, ?_⟩
  constructor
  case unlisted =>
    rw [Directory.contains, directory, Directory.callback?_remove, if_pos rfl]
    rfl
  case session =>
    rw [sessions, (placed.place k c found).1, Array.getElem?_modify, if_pos rfl,
      placed.session k c found, number]
    rfl
  case queue => exact queue
  case cancelled =>
    rintro ⟨message, j⟩ entry
    rw [caller]
    exact cancelled_at_end v.keyed entry
  case members => exact fun j other => moves.member_of_other about other
  case entries =>
    intro other different
    rw [directory, Directory.callback?_remove, if_neg different]
  case numbers =>
    intro few j other d there same
    exact other (placed.sessionId_inj few there found same)

/-- A connection whose loop does not run in `later` stays cleaned up there. -/
theorem stays_ended_of_past {n later : Network σ Socket} (placed : Placed n)
    (placed' : Placed later) {k : Nat} {c d : Connection} (v : Sealed d)
    (found : n.members[k]? = some c) (there : later.members[k]? = some d)
    (past : d.role.looping = false) : StaysEnded n later later.members.size k c := by
  have number : c.sessionId n.hub = Hub.sessionId k := placed.sessionId_eq found
  have number' : d.sessionId later.hub = Hub.sessionId k := placed'.sessionId_eq there
  constructor
  case session =>
    rw [(placed.place k c found).1, placed'.session k d there, past, number]
    rfl
  case unlisted =>
    intro few
    rw [number, ← number', ← Bool.not_eq_true]
    intro listed
    rw [placed'.looping_of_contains few there listed] at past
    cases past
  case refuses =>
    have closed := v.closed past
    exact ⟨d, there, v.keyed.closed closed, Caller.issue_of_closed closed⟩

/-- Over any engine, a move after which the loop of connection `k` does not run any more cleans up
    after it, and `k` stays ended whatever happens later. `closings` are the `close` commands of
    `k` over the whole run: one if the driver was running when the loop ended, and none else. -/
theorem end_cleans_up (E : Engine σ) (engine : σ) (mode : Mode) (moves : List Move) (m : Move)
    (more : List Move) (k : Nat) (c c' : Connection) :
    let start := start engine mode
    let n := after E start moves
    let n' := move E n m
    n.members[k]? = some c → c.role.looping →
    n'.members[k]? = some c' → c'.role.looping = false →
    CleansUp n n' (acceptances moves) k c c' ∧
    closings E k start (moves ++ m :: more) = closing n.hub (c.sessionId n.hub) ∧
    StaysEnded n (after E n' more) (acceptances (moves ++ m :: more)) k c := by
  intro start n n' found looping found' past
  have whole : after E n' more = after E start (moves ++ m :: more) := by
    rw [after, after, Run.after_append]
    rfl
  have placed : Placed n := placed_after E engine mode moves
  have secured : Sealed c := sealed_after E engine mode moves found
  obtain ⟨about, cleans⟩ := cleans_up_of_end E placed secured m found looping found' past
  obtain ⟨-, d, there, past'⟩ := after_end E found' past more
  rw [← size_after E engine mode moves, ← size_after E engine mode (moves ++ m :: more)]
  refine ⟨cleans, ?_, ?_⟩
  · exact closings_of_end E engine mode moves m more about found looping found' past cleans.queue
      (isClose_of_closing ..)
  · rw [whole] at there ⊢
    exact stays_ended_of_past placed (placed_after E engine mode _)
      (sealed_after E engine mode _ there) found there past'

/-- One of two viewers closes its connection while a call is outstanding. -/
theorem end_of_one_connection :
    let start := start ({} : Sources) .cooperative
    let moves : List Move := [.accept true, .accept true, .call 0 "save" [] [], .bring 0 .close]
    closings Sources.engine 0 start (moves ++ [.serve 0, .drive, .drive]) = [.close ⟨1⟩] ∧
    ∃ c' t, (move Sources.engine (after Sources.engine start moves) (.serve 0)).members[0]? = some c' ∧
      c'.caller.tickets[0]? = some t ∧ t.result = some (.error .cancelled) := by
  intro start moves
  let n := after Sources.engine start moves
  let n' := move Sources.engine n (.serve 0)
  have there : n.members[0]?.isSome ∧ n'.members[0]?.isSome := by decide +kernel
  have outstanding : n.members[0]?.all fun c =>
      c.role.looping && Connection.sessionId n.hub c = ⟨1⟩ && c.caller.table = [(⟨1⟩, 0)] := by
    decide +kernel
  have running : n.hub.isRunning := by decide +kernel
  have ended : n'.members[0]?.all fun c => !c.role.looping := by decide +kernel
  obtain ⟨⟨c, found⟩, c', found'⟩ := there.imp Option.isSome_iff_exists.mp Option.isSome_iff_exists.mp
  rw [found, Option.all_some] at outstanding
  rw [found', Option.all_some] at ended
  simp only [Bool.and_eq_true, decide_eq_true_eq] at outstanding
  obtain ⟨⟨looping, number⟩, table⟩ := outstanding
  obtain ⟨cleans, closings, -⟩ :=
    end_cleans_up Sources.engine {} .cooperative moves (.serve 0) [.drive, .drive] 0 c c' found looping
      found' (by simpa using ended)
  rw [number, closing, if_pos running] at closings
  obtain ⟨t, ht, -, result⟩ := cleans.cancelled (⟨1⟩, 0) (by rw [table]; exact List.mem_cons_self)
  exact ⟨closings, c', t, found', ht, result⟩

end Service

end SessionHub
