import SessionHub.Proofs.Hub.Delivery
import SessionHub.Proofs.Service.Requests
import SessionHub.Proofs.Service.Texts

set_option autoImplicit false

/-! # Answers over connections

In a service whose hub hosts sources, the binary frames that go out over a socket are the answers to
the binary frames that came in over it, and to no others (`answers_go_back`). While the loop of a
connection runs, what was written to the peer and what waits in the mailbox are together all that
was handed to the session (`got`). -/

namespace SessionHub

theorem Command.requestsOf_eq (id : SessionId) (cs : List Command) :
    requestsOf id cs =
      (cs.filterMap request?).filterMap fun r => if r.1 = id then some r.2 else none := by
  rw [List.filterMap_filterMap, requestsOf]
  refine congrArg (List.filterMap · cs) (funext fun c => ?_)
  cases c <;> rfl

theorem Hub.outstanding_of_queued {h h' : Hub Sources} {more : List Command} (q : Queued h h' more)
    {k : Nat} (others : Command.requestsOf (sessionId k) more = []) :
    h'.outstanding k = h.outstanding k := by
  rw [outstanding_eq_owed, owed_of_queued q, others, List.map_nil, List.append_nil,
    outstanding_eq_owed]

namespace Service

variable {σ : Type}

/-! ## Others -/

section Others

variable (E : Engine σ) {c : Connection} {L : List Hub.Move} (makes : ∀ a ∈ L, c.Makes a)

include makes

theorem added_of_makes (h : Hub σ) (j : Nat) : Hub.added E j h L = [] := by
  refine Run.seen_eq_nil _ _ h fun a ha h => ?_
  have made := makes a ha
  cases a <;> first | rfl | cases made

/-- A connection sends no requests for another. -/
theorem asked_of_makes (h : Hub σ) {j : Nat} (other : j ≠ c.session) : Hub.asked E j h L = [] := by
  refine Run.seen_eq_nil _ _ h fun a ha h => ?_
  have made := makes a ha
  cases a with
  | request k bytes => exact if_neg fun asks => other (asks.1.symm.trans made)
  | _ => rfl

/-- A connection takes nothing from the mailbox of another. -/
theorem unread_of_makes (h : Hub σ) {j : Nat} (other : j ≠ c.mailbox) :
    (Hub.after E h L).unread j = h.unread j := by
  have taken : Run.seen (Hub.move E) (fun h m => m.taken j h) h L = [] := by
    refine Run.seen_eq_nil _ _ h fun a ha h => ?_
    have made := makes a ha
    cases a with
    | read k | leave k => exact if_neg fun (same : k = j) => other (same.symm.trans made)
    | readAll k => cases made
    | _ => rfl
  have whole := Hub.handed_eq E h L j
  rw [Hub.handed, taken, added_of_makes E makes h j, List.nil_append, List.append_nil] at whole
  exact whole

end Others

/-! ## One connection -/

/-- After the end of a loop the binary frames that were written are those that were written
    before. -/
theorem Changed.binaries_of_past {h : Hub σ} {c c' : Connection} {m : Move} {L : List Hub.Move}
    (change : Changed h c m L c') (past : c'.role.looping = false) : c'.binaries = c.binaries := by
  cases change with
  | turn turn =>
    cases turn with
    | delivered waits looping => cases looping.symm.trans past
    | carried waits looping => cases looping.symm.trans past
    | passed rest reads frames =>
      rcases frames with same | ⟨bytes, more⟩
      · exact Connection.binaries_congr same
      · rw [Connection.binaries_of_written (c := c) (f := .pong bytes) more]
        exact List.append_nil _
    | ended outbound inbound result looping leaving => exact Connection.binaries_finished _
    | nothing | asked | told => rfl
  | _ => rfl

/-- While the loop goes on, what is read is asked, and what goes out in binary frames comes from the
    mailbox. Payloads do not matter, for they are texts. -/
theorem Changed.exchange (E : Engine σ) {h : Hub σ} {c c' : Connection} {m : Move} {L : List Hub.Move}
    (change : Changed h c m L c') (looping : c'.role.looping)
    (texts : ∀ p ∈ c.role.outbound, p.isBinary = false) :
    Hub.asked E c.session h L = (m.takes? h c).toList ∧
    c'.binaries ++ (Hub.after E h L).unread c.mailbox = c.binaries ++ h.unread c.mailbox := by
  cases change with
  | @turn k _ _ turn =>
    have takes : (Move.serve k).takes? h c = c.binaryRead? h := rfl
    rw [takes]
    cases turn with
    | nothing reads =>
      rw [reads.1]
      exact ⟨rfl, rfl⟩
    | @delivered bytes rest waits looping =>
      rw [(Connection.reads_nothing (Connection.arrival?_of_unread (by simp [waits]))).1]
      refine ⟨rfl, ?_⟩
      have moved := Hub.taken_append_unread E h (.read c.mailbox) c.mailbox
      rw [Hub.Move.taken, if_pos rfl, waits] at moved
      rw [Connection.binaries_of_written (c := c) (f := .binary bytes) rfl, List.append_assoc, waits]
      exact congrArg _ (moved.trans (List.append_nil _))
    | @carried p rest waits looping =>
      rw [(Connection.reads_nothing (Connection.arrival?_of_outbound (by simp [waits]))).1]
      refine ⟨rfl, ?_⟩
      have text := texts p (waits ▸ List.mem_cons_self)
      rw [Connection.binaries_of_written (c := c) (f := p.frame) rfl, (frame_of_text text).2,
        Option.toList_none, List.append_nil]
      rfl
    | @asked bytes rest reads accepted =>
      rw [reads]
      refine ⟨?_, ?_⟩
      · show (if c.session = c.session ∧ (h.request c.session bytes).2.isOk then [bytes] else []) ++
          ([] ++ []) = [bytes]
        rw [if_pos ⟨rfl, accepted⟩]
        rfl
      · have same : (Hub.after E h [.request c.session bytes, .poll c.session]).mailboxes =
            h.mailboxes :=
          (Hub.mailboxes_sendFor _ _ _).trans (Hub.mailboxes_sendFor _ _ _)
        exact congrArg _ (Hub.unread_congr (by rw [same]))
    | told rest reads =>
      rw [Connection.binaryRead?_of_text reads]
      exact ⟨rfl, rfl⟩
    | passed rest reads frames =>
      rw [reads.1]
      refine ⟨rfl, congrArg (· ++ _) ?_⟩
      rcases frames with same | ⟨bytes, more⟩
      · exact Connection.binaries_congr same
      · rw [Connection.binaries_of_written (c := c) (f := .pong bytes) more]
        exact List.append_nil _
    | ended => cases looping
  | owned hm => cases m <;> first | exact ⟨rfl, rfl⟩ | cases hm
  | _ => exact ⟨rfl, rfl⟩

/-! ## All connections -/

/-- What was handed to the session of connection `k` and was written or can still be. -/
def got (n : Network σ Socket) (k : Nat) : List Bytes :=
  match n.members[k]? with
  | none => []
  | some c =>
    if c.role.looping then Connection.binaries c ++ n.hub.unread k else Connection.binaries c

/-- What was read over connection `k`. -/
def readsOf (k : Nat) (reads : List (Nat × Bytes)) : List Bytes :=
  reads.filterMap fun r => if r.1 = k then some r.2 else none

@[simp] theorem readsOf_append (k : Nat) (reads more : List (Nat × Bytes)) :
    readsOf k (reads ++ more) = readsOf k reads ++ readsOf k more :=
  List.filterMap_append ..

theorem got_of_looping {n : Network σ Socket} {k : Nat} {c : Connection}
    (found : n.members[k]? = some c) (looping : c.role.looping) :
    got n k = c.binaries ++ n.hub.unread k := by
  simp only [got, found, looping, if_true]

theorem got_of_past {n : Network σ Socket} {k : Nat} {c : Connection}
    (found : n.members[k]? = some c) (past : c.role.looping = false) : got n k = c.binaries := by
  simp only [got, found, past, Bool.false_eq_true, if_false]

theorem got_of_none {n : Network σ Socket} {k : Nat} (vacant : n.members[k]? = none) :
    got n k = [] := by
  simp only [got, vacant]

theorem binaries_prefix_got {n : Network σ Socket} {k : Nat} {c : Connection}
    (found : n.members[k]? = some c) : c.binaries <+: got n k := by
  cases looping : c.role.looping with
  | true =>
    rw [got_of_looping found looping]
    exact List.prefix_append _ _
  | false => exact ⟨[], by rw [got_of_past found looping, List.append_nil]⟩

/-- Only a move about connection `k` reads something over it. -/
theorem readsOf_of_other {n : Network σ Socket} {m : Move} {k : Nat}
    (other : m.connection? ≠ some k) : readsOf k (m.read? n).toList = [] := by
  cases m with
  | serve j =>
    have apart : ¬ j = k := fun same => other (congrArg some same)
    rw [Move.read?]
    cases n.members[j]?.bind fun c => Connection.binaryRead? n.hub c with
    | none => rfl
    | some bytes => simp [readsOf, apart]
  | _ => rfl

theorem readsOf_of_some {n : Network σ Socket} {m : Move} {k : Nat} {c : Connection}
    (about : m.connection? = some k) (found : n.members[k]? = some c) :
    readsOf k (m.read? n).toList = (m.takes? n.hub c).toList := by
  rw [read?_of_some about found]
  cases m.takes? n.hub c <;> simp [readsOf]

section Books

variable {E : Engine σ} {n n' : Network σ Socket} {m : Move} {L : List Hub.Move}

/-- A move that is not about connection `k`, which is there before and after. -/
theorem Moved.books_of_other (v : Moved E n n' m L) (placed : Placed n) {k : Nat} {c : Connection}
    (other : m.connection? ≠ some k) (found : n.members[k]? = some c) :
    Hub.asked E k n.hub L = [] ∧ n'.hub.unread k = n.hub.unread k ++ Hub.added E k n.hub L := by
  have inside : k ≠ n.members.size := Nat.ne_of_lt (Array.getElem?_eq_some_iff.mp found).1
  cases v with
  | @aside a hm hub members =>
    have taken : a.taken k n.hub = [] := by cases m <;> cases hm <;> rfl
    have one := Hub.taken_append_unread E n.hub a k
    rw [taken, List.nil_append] at one
    refine ⟨by cases m <;> cases hm <;> rfl, ?_⟩
    rw [hub, one, Hub.added, Run.seen_cons, Run.seen_nil, List.append_nil]
  | accepted hm r hub members =>
    refine ⟨rfl, ?_⟩
    have opened := Hub.taken_append_unread E n.hub .openMailbox k
    rw [hub]
    exact opened
  | absent hm vacant hub members =>
    refine ⟨rfl, ?_⟩
    rw [hub]
    exact (List.append_nil _).symm
  | @changed j d d' _ hm there change hub members =>
    obtain ⟨session, mailbox⟩ := placed.place j d there
    have apart : k ≠ j := by
      rintro rfl
      exact other hm
    rw [hub, added_of_makes E change.makes, List.append_nil]
    exact ⟨asked_of_makes E change.makes n.hub (session ▸ apart),
      unread_of_makes E change.makes n.hub (mailbox ▸ apart)⟩

/-- A connection whose loop runs after a move has asked what was read, and has got what was added to
    its mailbox. -/
theorem Moved.books (v : Moved E n n' m L) (placed : Placed n)
    (texts : ∀ (k : Nat) (c : Connection), n.members[k]? = some c →
      ∀ p ∈ c.role.outbound, p.isBinary = false)
    {k : Nat} {c' : Connection} (found' : n'.members[k]? = some c') (looping' : c'.role.looping) :
    readsOf k (m.read? n).toList = Hub.asked E k n.hub L ∧
    got n' k = got n k ++ Hub.added E k n.hub L := by
  rw [got_of_looping found' looping']
  rcases v.member_cases found' with ⟨other, found⟩ | ⟨shared, rfl, rfl, rfl⟩
    | ⟨about, c, found, change⟩
  · obtain ⟨asked, unread⟩ := v.books_of_other placed other found
    rw [readsOf_of_other other, asked, got_of_looping found looping', unread, List.append_assoc]
    exact ⟨rfl, rfl⟩
  · -- nothing was in the mailbox before
    cases v with
    | accepted hm r hub members =>
      have opened := Hub.taken_append_unread E n.hub .openMailbox n.members.size
      have nothing : n.hub.unread n.members.size = [] :=
        Hub.unread_of_none (Array.getElem?_eq_none (Nat.le_of_eq placed.mailboxes))
      have empty : n'.hub.unread n.members.size = n.hub.unread n.members.size ++ [] := by
        rw [hub]
        exact opened
      rw [empty, nothing, got_of_none (Array.getElem?_eq_none (Nat.le_refl _))]
      exact ⟨rfl, rfl⟩
    | aside hm => cases hm
    | absent hm => cases hm
    | changed hm => cases hm
  · obtain ⟨session, mailbox⟩ := placed.place k c found
    have looping : c.role.looping := by
      obtain ⟨-, -, ⟨same, -⟩ | ⟨looping, -⟩⟩ := change.goes_on_or_ends
      · exact same ▸ looping'
      · exact looping
    obtain ⟨asked, whole⟩ := change.exchange E looping' (texts k c found)
    rw [session] at asked
    rw [mailbox, ← v.hub_eq] at whole
    rw [readsOf_of_some about found, asked, whole, got_of_looping found looping,
      added_of_makes E change.makes, List.append_nil]
    exact ⟨rfl, rfl⟩

theorem Moved.orderly (v : Moved E n n' m L) (orderly : m.isOrderly) : ∀ a ∈ L, a.isOrderly := by
  cases v with
  | @aside b hm hub members =>
    intro a ha
    rw [List.mem_singleton.mp ha]
    cases m with
    | command command => cases hm; cases command <;> first | rfl | cases orderly
    | strike id => cases orderly
    | drive | retain | letGo => cases hm; rfl
    | _ => cases hm
  | accepted hm r hub members => simp [Hub.Move.isOrderly]
  | absent hm vacant hub members => simp
  | changed hm found change hub members =>
    intro a ha
    have made := change.makes a ha
    cases a <;> first | rfl | cases made

theorem Moved.openings_eq (v : Moved E n n' m L) :
    Hub.openings L = if m.accepts then 1 else 0 := by
  cases v with
  | aside hm hub members =>
    rw [(connection?_of_aside hm).2]
    cases m <;> cases hm <;> rfl
  | accepted hm r hub members =>
    subst hm
    rfl
  | absent hm vacant hub members =>
    rw [accepts_of_connection? hm]
    rfl
  | changed hm found change hub members =>
    rw [accepts_of_connection? hm]
    refine List.countP_eq_zero.mpr fun a ha => ?_
    have made := change.makes a ha
    cases a <;> first | exact Bool.false_ne_true | cases made

end Books

/-! ## Sources -/

section Sources

variable {s : Sources} {n n' : Network Sources Socket} {m : Move} {L : List Hub.Move}

theorem served_moved {reads : List (Nat × Bytes)}
    (v : Hub.Served s n.hub (fun k => readsOf k reads) (got n)) (placed : Placed n)
    (texts : ∀ (k : Nat) (c : Connection), n.members[k]? = some c →
      ∀ p ∈ c.role.outbound, p.isBinary = false)
    (move : Moved Sources.engine n n' m L) (orderly : m.isOrderly)
    (few : n'.members.size < UInt32.size) :
    Hub.Served s n'.hub (fun k => readsOf k (reads ++ (m.read? n).toList)) (got n') := by
  have later := v.moves L (move.orderly orderly) (by
    rw [placed.sessions, move.openings_eq, ← move.size_eq]
    exact few)
  rw [← move.hub_eq] at later
  have placed' := placed.moved move
  have agree : ∀ (k : Nat) (c' : Connection), n'.members[k]? = some c' → c'.role.looping →
      readsOf k (reads ++ (m.read? n).toList) =
          readsOf k reads ++ Hub.asked Sources.engine k n.hub L ∧
        got n' k = got n k ++ Hub.added Sources.engine k n.hub L := by
    intro k c' found' looping'
    obtain ⟨asked, added⟩ := move.books placed texts found' looping'
    rw [readsOf_append, asked]
    exact ⟨rfl, added⟩
  have more : ∀ k, (readsOf k reads).map s.answer <+:
      (readsOf k (reads ++ (m.read? n).toList)).map s.answer := by
    intro k
    rw [readsOf_append, List.map_append]
    exact List.prefix_append _ _
  refine later.of_books (fun k served => ?_) (fun k => ?_) fun k new => ?_
  · have live := Hub.isOpen_of_isServed served
    have inside : k < n'.members.size := placed'.sessions ▸ Hub.lt_of_isOpen live
    have found' := Array.getElem?_eq_getElem inside
    exact agree k _ found' ((placed'.isOpen found').mp live)
  · cases found' : n'.members[k]? with
    | none =>
      have unopened : n'.hub.sessions.size ≤ k :=
        placed'.sessions ▸ Array.getElem?_eq_none_iff.mp found'
      rw [got_of_none found', later.directed.handing_of_unopened unopened]
      exact List.nil_prefix
    | some c' =>
      cases looping' : c'.role.looping with
      | true =>
        rw [(agree k c' found' looping').1, (agree k c' found' looping').2]
        exact later.got k
      | false =>
        -- what was written before the end of the loop is all that there will ever be
        have nothing : n'.hub.handing k = [] :=
          Hub.handing_of_unattended ((placed'.attended k c' found').trans looping')
        rw [got_of_past found' looping', nothing, List.append_nil]
        have before : got n k <+: (readsOf k (reads ++ (m.read? n).toList)).map s.answer :=
          (List.prefix_append _ _).trans ((v.got k).trans (more k))
        refine List.IsPrefix.trans ?_ before
        rcases move.member_cases found' with ⟨-, found⟩ | ⟨shared, -, -, rfl⟩
          | ⟨-, c, found, change⟩
        · exact binaries_prefix_got found
        · cases looping'
        · rw [change.binaries_of_past looping']
          exact binaries_prefix_got found
  · have vacant' : n'.members[k]? = none :=
      Array.getElem?_eq_none (placed'.sessions ▸ new)
    have vacant : n.members[k]? = none := by
      refine Array.getElem?_eq_none (Nat.le_trans ?_ (placed'.sessions ▸ new))
      rw [move.size_eq]
      exact Nat.le_add_right _ _
    have silent : readsOf k (m.read? n).toList = [] := by
      by_cases about : m.connection? = some k
      · rw [read?_of_none about vacant]
        rfl
      · exact readsOf_of_other about
    have before := (v.fresh k (placed.sessions ▸ Array.getElem?_eq_none_iff.mp vacant)).1
    rw [readsOf_append, before, silent, got_of_none vacant']
    exact ⟨rfl, rfl⟩

theorem served_run (s : Sources) (empty : s.queued = []) (mode : Mode) (moves : List Move)
    (orderly : ∀ m ∈ moves, m.isOrderly) (few : acceptances moves < UInt32.size) :
    let start := start s mode
    let n := after Sources.engine start moves
    Hub.Served s n.hub (fun k => readsOf k (reads Sources.engine start moves)) (got n) := by
  intro start
  revert orderly few
  refine Run.after_induction (Service.move Sources.engine) (motive := fun moves n =>
    (∀ m ∈ moves, m.isOrderly) → acceptances moves < UInt32.size →
      Hub.Served s n.hub (fun k => readsOf k (reads Sources.engine start moves)) (got n)) start ?_ ?_
    moves
  · intro _ _
    exact (Hub.served_start s empty mode).of_books (fun k _ => ⟨rfl, got_of_none rfl⟩)
      (fun k => by rw [got_of_none rfl, Hub.handing_of_nil rfl]; exact List.nil_prefix)
      fun k _ => ⟨rfl, got_of_none rfl⟩
  · intro moves m ih orderly few
    obtain ⟨L, move⟩ := moved Sources.engine (after Sources.engine start moves) m
    have fewer : acceptances moves < UInt32.size := by
      rw [acceptances_concat] at few
      omega
    have v := ih (fun m hm => orderly m (List.mem_append_left _ hm)) fewer
    rw [reads, Run.seen_concat]
    refine served_moved v (placed_after Sources.engine s mode moves) ?_ move
      (orderly m (List.mem_append_right _ (List.mem_singleton.mpr rfl))) ?_
    · exact fun k c found => (carried_after Sources.engine s mode moves found).outbound
    · have size := move.size_eq
      rw [size_after, ← acceptances_concat] at size
      exact size ▸ few

/-- What is on its way to a connection does not depend on what others do. -/
theorem outstanding_of_other (placed : Placed n) (few : n.members.size < UInt32.size)
    (move : Moved Sources.engine n n' m L) {j k : Nat} {c : Connection}
    (found : n.members[k]? = some c) (about : m.connection? = some j) (other : j ≠ k) :
    n'.hub.unread k = n.hub.unread k ∧ n'.hub.outstanding k = n.hub.outstanding k := by
  cases move with
  | aside hm hub members => cases (connection?_of_aside hm).1.symm.trans about
  | accepted hm r hub members =>
    subst hm
    cases about
  | absent hm vacant hub members => exact ⟨by rw [hub], by rw [hub]⟩
  | @changed i d d' _ hm there change hub members =>
    cases hm.symm.trans about
    obtain ⟨session, mailbox⟩ := placed.place j d there
    rw [hub]
    refine ⟨unread_of_makes Sources.engine change.makes _ (mailbox ▸ Ne.symm other), ?_⟩
    refine Hub.outstanding_of_queued (n.hub.queued_after Sources.engine fun a ha drives => ?_) ?_
    · have made := change.makes a ha
      rw [drives] at made
      exact made
    · by_cases running : n.hub.isRunning
      · have live := (placed.isOpen there).mpr
        rw [← session] at live
        have apart : ¬ d.sessionId n.hub = Hub.sessionId k := by
          rw [← placed.sessionId_eq found]
          exact fun same => other (placed.sessionId_inj few there found same)
        rw [Command.requestsOf_eq, change.requests Sources.engine running live]
        cases m.takes? n.hub d <;> simp [apart]
      · rw [Hub.accepted_of_not_running Sources.engine running]
        rfl

end Sources

/-! ## The law -/

/-- In every orderly run of a service whose hub hosts sources, with nothing queued at first and
    fewer than `2 ^ 32` connections accepted: the requests that the engine is called for are a
    prefix of `reads`, the binary frames that loops have read. For each connection the binary frames
    written to its peer are a prefix of the answers to the binary frames read from that peer. While
    the driver and the loop run, the rest is unread in its mailbox or `outstanding` in the hub, and
    nothing is left of it when the hub is idle and the loop has no `backlog`. A move of another
    connection changes neither this connection nor what is unread or outstanding for it. -/
theorem answers_go_back (s : Sources) (empty : s.queued = []) (mode : Mode) (moves : List Move)
    (orderly : ∀ m ∈ moves, m.isOrderly) (few : acceptances moves < UInt32.size) :
    let start := start s mode
    let n := after Sources.engine start moves
    let read := reads Sources.engine start moves
    (called Sources.engine start moves).filterMap Invocation.request? <+:
      read.map (fun r => (Hub.sessionId r.1, r.2)) ∧
    ∀ (k : Nat) (c : Connection), n.members[k]? = some c →
      let answers := (readsOf k read).map s.answer
      c.binaries <+: answers ∧
      (n.hub.isRunning → c.role.looping →
        c.binaries ++ n.hub.unread k ++ n.hub.outstanding k = answers) ∧
      (n.hub.isRunning → n.hub.isIdle → c.role.looping → c.backlog n.hub = 0 →
        c.binaries = answers) ∧
      ∀ (m : Move) (j : Nat), m.connection? = some j → j ≠ k →
        let n' := move Sources.engine n m
        n'.members[k]? = some c ∧ n'.hub.unread k = n.hub.unread k ∧
          n'.hub.outstanding k = n.hub.outstanding k := by
  intro start n read
  refine ⟨requests_are_reads Sources.engine s mode moves orderly, fun k c found => ?_⟩
  intro answers
  have v : Hub.Served s n.hub (fun k => readsOf k read) (got n) :=
    served_run s empty mode moves orderly few
  have placed : Placed n := placed_after Sources.engine s mode moves
  have whole : n.hub.isRunning → c.role.looping →
      c.binaries ++ n.hub.unread k ++ n.hub.outstanding k = answers := by
    intro running looping
    have served : n.hub.isServed k :=
      Hub.isServed_iff.mpr
        ⟨(placed.isOpen found).mpr looping, (placed.attended k c found).trans looping⟩
    have all := (v.rest k served).2 running
    rw [got_of_looping found looping] at all
    exact all
  have written : c.binaries <+: answers :=
    (binaries_prefix_got found).trans ((List.prefix_append _ _).trans (v.got k))
  refine ⟨written, whole, ?_, ?_⟩
  · intro running idle looping done
    obtain ⟨ready, blocked⟩ := Hub.ready_of_idle running idle
    have nothing : n.hub.unread k = [] := by
      rw [Connection.backlog, if_pos looping, (placed.place k c found).2] at done
      exact List.length_eq_zero_iff.mp (by omega)
    have all := whole running looping
    rw [v.outstanding_of_blocked ready blocked, nothing, List.append_nil, List.append_nil] at all
    exact all
  · intro m j about other n'
    obtain ⟨L, move⟩ := moved Sources.engine n m
    have size : n.members.size < UInt32.size := by
      rw [size_after]
      exact few
    refine ⟨?_, outstanding_of_other placed size move found about other⟩
    rw [move.member_of_other about (Ne.symm other), found]

/-- One of two viewers asks for a source, and the other one only pings. -/
theorem answer_to_one_of_two :
    let start := start ({ hosted := [("note", [1, 2])] } : Sources) .cooperative
    let moves : List Move := [.accept true, .accept false, .bring 0 (.binary [110, 111, 116, 101]),
      .bring 1 (.ping [7]), .serve 0, .serve 1] ++ List.replicate 8 .drive ++ [.serve 0]
    ∃ c d : Connection, (after Sources.engine start moves).members[0]? = some c ∧
      (after Sources.engine start moves).members[1]? = some d ∧ c.binaries = [[1, 2]] ∧
      d.binaries = [] := by
  intro start moves
  let n := after Sources.engine start moves
  have there : n.members[0]?.isSome ∧ n.members[1]?.isSome := by decide +kernel
  have still : n.hub.isRunning ∧ n.hub.isIdle := by decide +kernel
  have idle : ∀ c ∈ n.members, c.role.looping ∧ Connection.backlog n.hub c = 0 := by decide +kernel
  obtain ⟨⟨c, found⟩, d, found'⟩ := there.imp Option.isSome_iff_exists.mp Option.isSome_iff_exists.mp
  obtain ⟨-, law⟩ := answers_go_back { hosted := [("note", [1, 2])] } rfl .cooperative moves
    (by decide) (by decide)
  have whole : ∀ (k : Nat) (e : Connection), n.members[k]? = some e → e.binaries =
      (readsOf k (reads Sources.engine start moves)).map
        ({ hosted := [("note", [1, 2])] } : Sources).answer := by
    intro k e found
    obtain ⟨-, -, whole, -⟩ := law k e found
    obtain ⟨looping, done⟩ := idle e (Array.mem_of_getElem? found)
    exact whole still.1 still.2 looping done
  refine ⟨c, d, found, found', (whole 0 c found).trans ?_, (whole 1 d found').trans ?_⟩
  · decide +kernel
  · decide +kernel

end Service

end SessionHub
