import SessionHub.Proofs.Network.Run

set_option autoImplicit false

/-! # Clients of an engine that answers calls

A client has a session and a mailbox of its own, and a ticket for each of its exchanges. While a
ticket is waiting, its exchange is in a send that was not carried out yet or on its way through the
hub (`Client.Sound`). -/

namespace SessionHub.Client

variable {σ : Type}

/-- Whether client `k` of a hub, with the exchanges `due`, is in order after no more than `calls`
    calls. -/
structure Sound (f : String → List Json → Json) (kept : σ → List Question) (h : Hub σ) (k : Nat)
    (due : List Exchange) (calls : Nat) (c : Client) : Prop where
  session : c.session = k
  mailbox : c.mailbox = k
  forwarding : c.role.forwarding
  held : c.caller.holders ≠ 0
  tidy : ∃ used ≤ calls, c.caller.Tidy used
  ids : c.caller.ids = due.map (·.id)
  asked : ∀ send ∈ c.caller.sends, ∃ x ∈ due, x.AskedBy f send.payload.bytes
  awaited : ∀ (j : Nat) (t : Ticket) (x : Exchange), c.caller.tickets[j]? = some t → t.waiting →
    due[j]? = some x →
      (∃ send ∈ c.caller.sends, x.AskedBy f send.payload.bytes) ∨ h.Carries f kept k x

namespace Sound

variable {f : String → List Json → Json} {kept : σ → List Question} {h : Hub σ} {k : Nat}
  {due : List Exchange} {calls : Nat} {c : Client}

/-- A ticket has the identity of its exchange. -/
theorem exchange_of_ticket (s : c.Sound f kept h k due calls) {j : Nat} {t : Ticket}
    (ht : c.caller.tickets[j]? = some t) : ∃ x, due[j]? = some x ∧ x.id = t.id := by
  have id : (due.map (·.id))[j]? = some t.id := by
    rw [← s.ids, Caller.ids, List.getElem?_map, Array.getElem?_toList, ht]
    rfl
  rw [List.getElem?_map, Option.map_eq_some_iff] at id
  exact id

theorem ticket_of_exchange (s : c.Sound f kept h k due calls) {j : Nat} {x : Exchange}
    (hx : due[j]? = some x) : ∃ t, c.caller.tickets[j]? = some t ∧ t.id = x.id := by
  have id : (c.caller.tickets.toList.map (·.id))[j]? = some x.id := by
    have ids : c.caller.tickets.toList.map (·.id) = due.map (·.id) := s.ids
    rw [ids, List.getElem?_map, hx]
    rfl
  rw [List.getElem?_map, Option.map_eq_some_iff, Array.getElem?_toList] at id
  exact id

/-- Exchanges of one client are told apart by their identities. -/
theorem exchange_inj (s : c.Sound f kept h k due calls) {x y : Exchange} (hx : x ∈ due)
    (hy : y ∈ due) (same : x.id = y.id) : x = y := by
  obtain ⟨i, hi⟩ := List.mem_iff_getElem?.mp hx
  obtain ⟨j, hj⟩ := List.mem_iff_getElem?.mp hy
  obtain ⟨t, ht, htx⟩ := s.ticket_of_exchange hi
  obtain ⟨u, hu, huy⟩ := s.ticket_of_exchange hj
  obtain ⟨used, -, tidy⟩ := s.tidy
  cases tidy.distinct i j t u ht hu (htx.trans (same.trans huy.symm))
  rw [hi] at hj
  exact Option.some.inj hj

/-- What is on its way may come along. -/
theorem of_carries (s : c.Sound f kept h k due calls) {h' : Hub σ}
    (carries : ∀ x, h.Carries f kept k x → h'.Carries f kept k x) {calls' : Nat}
    (more : calls ≤ calls') : c.Sound f kept h' k due calls' := by
  obtain ⟨used, hu, tidy⟩ := s.tidy
  exact {
    s with
    tidy := ⟨used, Nat.le_trans hu more, tidy⟩
    awaited := fun j t x ht waits hx => (s.awaited j t x ht waits hx).imp_right (carries x) }

theorem start (f : String → List Json → Json) (kept : σ → List Question) (h : Hub σ) (k calls : Nat) :
    Sound f kept h k [] calls { session := k, mailbox := k, role := {} } where
  session := rfl
  mailbox := rfl
  forwarding := rfl
  held := Nat.one_ne_zero
  tidy := ⟨0, Nat.zero_le _, Caller.tidy_start⟩
  ids := rfl
  asked := by simp
  awaited := by simp

/-- A move of the caller keeps a client in order if what it waits for stays on its way, unless it
    is about sends. -/
theorem moved (s : c.Sound f kept h k due calls) (few : calls < UInt64.size) {a : Caller.Move}
    (apart : a.touchesSends = false) (live : (c.caller.move a).closed = false) {h' : Hub σ}
    (carries : ∀ (j : Nat) (t : Ticket) (x : Exchange), due[j]? = some x → x.id = t.id →
      a.fate? t.id j c.caller = none → h.Carries f kept k x → h'.Carries f kept k x) :
    Sound f kept h' k due calls { c with caller := c.caller.move a } := by
  obtain ⟨used, hu, tidy⟩ := s.tidy
  have takes : a.takesIdentity = false ∧ a.accepted? c.caller = none := by
    cases a <;> first | exact ⟨rfl, rfl⟩ | cases apart
  have few' : used + (if a.takesIdentity then 1 else 0) < UInt64.size := by
    rw [takes.1]
    exact Nat.lt_of_le_of_lt hu few
  have ids : (c.caller.move a).ids = c.caller.ids := by
    rw [tidy.ids_move a few', takes.2]
    exact List.append_nil _
  have size : (c.caller.move a).tickets.size = c.caller.tickets.size := by
    simpa [Caller.ids] using congrArg List.length ids
  have tidy' := (tidy.act a few').1
  rw [takes.1] at tidy'
  obtain ⟨sends, held⟩ := Caller.frame_move apart live
  exact {
    s with
    held := held s.held
    tidy := ⟨used, hu, tidy'⟩
    ids := ids.trans s.ids
    asked := by
      rw [sends]
      exact s.asked
    awaited := by
      intro j t x ht waits hx
      -- a ticket that waits after the move has waited before, since the move brought no fate
      have old : j < c.caller.tickets.size := size ▸ (Array.getElem?_eq_some_iff.mp ht).1
      obtain ⟨before, fate⟩ := tidy.waited_before few' ht waits old
      obtain ⟨y, hy, id⟩ := s.exchange_of_ticket before
      rw [hx] at hy
      cases hy
      rw [sends]
      exact (s.awaited j t x before waits hx).imp_right (carries j t x hx id fate) }

/-! ## Calls -/

/-- A call is issued. If it is accepted, it has an exchange, which is in its send. -/
theorem called (s : c.Sound f kept h k due calls) (few : calls + 1 < UInt64.size)
    (live : c.caller.closed = false) (method : String) (args : List Json)
    (named : List (String × Json)) (portable : ∀ id, (Envelope.call id method args named).IsPortable) :
    Sound f kept h k
      (due ++ (((Caller.Move.issue true method args named).accepted? c.caller).map fun id =>
        ⟨id, f method (Network.allArgs args named)⟩).toList) (calls + 1)
      { c with caller := c.caller.move (.issue true method args named) } := by
  obtain ⟨used, hu, tidy⟩ := s.tidy
  have few' : used + 1 < UInt64.size := by omega
  have closed : ¬ c.caller.closed := by simp [live]
  by_cases full : Caller.limit ≤ c.caller.pending
  · -- the call is refused, and its identity is used up
    simp only [Caller.move, Caller.act, Caller.Move.accepted?, Caller.issue_of_full closed full,
      Option.map_none, Option.toList_none, List.append_nil]
    exact { s with tidy := ⟨used + 1, by omega, tidy.refuse⟩ }
  · have room := Nat.not_le.mp full
    simp only [Caller.move, Caller.act, Caller.Move.accepted?,
      tidy.issue_eq_taken few' closed room, Option.map_some, Option.toList_some]
    let x : Exchange := ⟨⟨c.caller.next⟩, f method (Network.allArgs args named)⟩
    have asked : x.AskedBy f (Envelope.call ⟨c.caller.next⟩ method args named).payload.bytes :=
      ⟨_, Envelope.read_write (portable _), rfl⟩
    have length : due.length = c.caller.tickets.size := by
      simpa [Caller.ids] using (congrArg List.length s.ids).symm
    exact {
      s with
      tidy := ⟨used + 1, by omega, tidy.take few' closed method args named⟩
      ids := by
        have ids := s.ids
        simp only [Caller.ids] at ids
        simp [Caller.ids, Caller.taken, ids]
      asked := by
        intro send hs
        rcases List.mem_cons.mp hs with rfl | hs
        · exact ⟨x, by simp [x], asked⟩
        · obtain ⟨y, hy, asked⟩ := s.asked send hs
          exact ⟨y, List.mem_append_left _ hy, asked⟩
      awaited := by
        intro j t y ht waits hy
        rcases Caller.tickets_push.mp ht with ht | ⟨rfl, rfl⟩
        · have inside : j < due.length := length ▸ (Array.getElem?_eq_some_iff.mp ht).1
          rw [List.getElem?_append_left inside] at hy
          refine (s.awaited j t y ht waits hy).imp_left ?_
          rintro ⟨send, hs, asked⟩
          exact ⟨send, List.mem_cons_of_mem _ hs, asked⟩
        · -- the new exchange is in the send that goes with the call
          rw [← length, List.getElem?_concat_length] at hy
          cases hy
          exact .inl ⟨_, List.mem_cons_self, asked⟩ }

/-! ## Sends and deliveries -/

/-- The answer of an exchange is the fate of the call of that identity. -/
theorem fate_of_told {bytes : Bytes} {x : Exchange} (told : x.ToldBy bytes) (id : MessageId) (j : Nat)
    (d : Caller) : (Caller.Move.receive bytes).fate? id j d =
      if x.id = id then some (.settled (.ok x.data)) else none := by
  simp [Caller.Move.fate?, Caller.Move.completion?, show Envelope.read bytes = _ from told,
    Exchange.answer, Envelope.reply?]

section Hub

variable {E : Engine σ} {dues : Nat → List Exchange}

theorem sendAt_of_none {i : Nat} (none : c.caller.sends[i]? = none) : c.sendAt i h = (h, c) := by
  simp only [sendAt, none]

/-- A send that is carried out does not fail. -/
theorem sendAt_of_some (s : c.Sound f kept h k (dues k) calls) (hub : h.Sound E f kept dues)
    (hk : k < h.sessions.size) (running : h.isRunning) {i : Nat} {send : Send}
    (hs : c.caller.sends[i]? = some send) :
    c.sendAt i h = ((h.sendPayload k send.payload).1.noteAll [],
      { c with caller := { c.caller with sends := c.caller.sends.eraseIdx i } }) := by
  obtain ⟨x, hx, asked⟩ := s.asked send (List.mem_of_getElem? hs)
  obtain ⟨ok, -⟩ := hub.sendPayload running hk hx asked
  simp only [sendAt, hs, s.session, ok, Caller.sendEnded]

/-- The session of a client stays, so that its forwarding goes on when it finds nothing unread. -/
theorem forward_of_nil (s : c.Sound f kept h k (dues k) calls) (hub : h.Sound E f kept dues)
    (hk : k < h.sessions.size) (empty : h.unread k = []) : c.forward h = (h, c) := by
  have connected : h.isCutOff k = false := by
    have entry := (hub.owned.entry _ _).mpr ⟨k, Hub.isOpen_of_isServed (hub.served k hk), rfl, rfl⟩
    rw [← Bool.not_eq_true, Hub.isCutOff, Bool.and_eq_true, List.all_eq_true]
    rintro ⟨all, -⟩
    simpa using all _ entry
  simp [forward, s.forwarding, s.mailbox, Hub.read?_of_nil empty, connected]

theorem forward_of_read (s : c.Sound f kept h k (dues k) calls) {bytes : Bytes} {h' : Hub σ}
    (read : h.read? k = some (bytes, h')) :
    c.forward h = (h'.noteAll (c.caller.act (.receive bytes)).2,
      { c with caller := c.caller.move (.receive bytes) }) := by
  simp [forward, s.forwarding, s.mailbox, read, s.held, Caller.move, Caller.act]

/-- A send is carried out, and its exchange is on its way from then on. -/
theorem sent (s : c.Sound f kept h k (dues k) calls) (hub : h.Sound E f kept dues)
    (hk : k < h.sessions.size) (running : h.isRunning) (i : Nat) :
    (c.sendAt i h).1.Sound E f kept dues ∧ (c.sendAt i h).1.sessions = h.sessions ∧
      (∀ j y, j ≠ k → h.Carries f kept j y → (c.sendAt i h).1.Carries f kept j y) ∧
      Sound f kept (c.sendAt i h).1 k (dues k) calls (c.sendAt i h).2 := by
  cases hs : c.caller.sends[i]? with
  | none =>
    rw [sendAt_of_none hs]
    exact ⟨hub, rfl, fun _ _ _ => id, s⟩
  | some send =>
    obtain ⟨used, hu, tidy⟩ := s.tidy
    obtain ⟨x, hx, asked⟩ := s.asked send (List.mem_of_getElem? hs)
    obtain ⟨-, hub', sessions, -, carries⟩ := hub.sendPayload running hk hx asked
    rw [s.sendAt_of_some hub hk running hs]
    refine ⟨hub'.noteAll [], sessions, fun j y _ => carries j y, {
      s with
      tidy := ⟨used, hu, tidy.withOthers _ _⟩
      asked := fun other ho => s.asked other (List.mem_of_mem_eraseIdx ho)
      awaited := fun j t y ht waits hy => ?_ }⟩
    rcases s.awaited j t y ht waits hy with ⟨other, ho, asked'⟩ | way
    · by_cases same : other = send
      · -- it was in this send
        subst same
        obtain ⟨-, -, -, way, -⟩ := hub.sendPayload running hk (List.mem_of_getElem? hy) asked'
        exact .inr way
      · refine .inl ⟨other, ?_, asked'⟩
        obtain ⟨l, hl⟩ := List.mem_iff_getElem?.mp ho
        refine List.mem_eraseIdx_iff_getElem?.mpr ⟨l, fun hil => same ?_, hl⟩
        rw [hil, hs] at hl
        exact (Option.some.inj hl).symm
    · exact .inr (carries k y way)

/-- A delivery is forwarded, and the exchange that it answers is over. -/
theorem forwarded (s : c.Sound f kept h k (dues k) calls) (hub : h.Sound E f kept dues)
    (hk : k < h.sessions.size) (few : calls < UInt64.size) (live : c.caller.closed = false) :
    (c.forward h).1.Sound E f kept dues ∧ (c.forward h).1.sessions = h.sessions ∧
      (∀ j y, j ≠ k → h.Carries f kept j y → (c.forward h).1.Carries f kept j y) ∧
      Sound f kept (c.forward h).1 k (dues k) calls (c.forward h).2 := by
  cases some_left : h.unread k with
  | nil =>
    rw [s.forward_of_nil hub hk some_left]
    exact ⟨hub, rfl, fun _ _ _ => id, s⟩
  | cons bytes rest =>
    obtain ⟨h', read, hub', sessions, -, ⟨x, hx, told⟩, carries⟩ := hub.read some_left
    rw [s.forward_of_read read]
    refine ⟨hub'.noteAll _, sessions, fun j y other way => ?_, s.moved few rfl ?_ ?_⟩
    · exact (carries j y way).resolve_right fun ⟨same, _⟩ => other same
    · exact (Caller.frame_of_tells rfl).1.trans live
    · intro j t y hy id fate way
      refine (carries k y way).resolve_right fun ⟨_, told'⟩ => ?_
      -- an answer to this exchange would have settled the ticket
      simp [fate_of_told told', id] at fate

end Hub

end Sound

end SessionHub.Client
