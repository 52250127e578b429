import SessionHub.Proofs.Network.Order

set_option autoImplicit false

/-! # Every call gets its own reply

The ticket of an accepted call is on course to the answer of that very call until it is there, or
the ticket is given up (`OnCourse`). In a live network whose driver waits for a command and whose
tasks have nothing to do, nothing is on its way any more, so that no ticket is waiting
(`replies_of_idle`). -/

namespace SessionHub

/-- Whether a ticket whose call is answered with `data` is waiting, or the answer is there, or the
    ticket was given up, where `past` says whether it may have been. -/
def Ticket.OnCourse (data : Json) (past : Prop) (t : Ticket) : Prop :=
  t.waiting ∨ t.result = some (.ok data) ∨ t.held = false ∧ past

/-- A ticket stays on course in a move that brings it no other result than the answer, except at the
    end of the time to wait. -/
theorem Caller.Tidy.onCourse_move {c : Caller} {used : Nat} (h : c.Tidy used) {a : Caller.Move}
    (few : used + (if a.takesIdentity then 1 else 0) < UInt64.size) {j : Nat} {t : Ticket}
    (ht : c.tickets[j]? = some t) {data : Json} {past past' : Prop} (course : t.OnCourse data past)
    (fates : ∀ fate, a.fate? t.id j c = some fate →
      fate = .settled (.ok data) ∨ (a = .expire j ∨ a = .release j) ∧ past')
    (more : past → past') :
    ∃ s, (c.move a).tickets[j]? = some s ∧ s.OnCourse data past' := by
  by_cases waits : t.waiting
  · have new := h.move_of_waiting ht waits a few
    cases ha : a.fate? t.id j c with
    | none =>
      obtain ⟨hs, -⟩ := ha ▸ new
      exact ⟨t, hs, .inl waits⟩
    | some fate =>
      rcases fates fate ha with rfl | ⟨ended, past'⟩
      · obtain ⟨held, hs, -⟩ := ha ▸ new
        exact ⟨_, hs, .inr (.inl rfl)⟩
      · rcases ended with rfl | rfl
        · obtain ⟨s, hs, -, free⟩ := Caller.held_expire ht
          exact ⟨s, hs, .inr (.inr ⟨free, past'⟩)⟩
        · exact ⟨_, Caller.tickets_release ht, .inr (.inr ⟨rfl, past'⟩)⟩
  · obtain ⟨held, hs, kept⟩ := h.move_of_not_waiting ht waits a few
    refine ⟨_, hs, .inr ?_⟩
    rcases course with waits' | there | ⟨free, past⟩
    · exact absurd waits' waits
    · exact .inl there
    · refine .inr ⟨?_, more past⟩
      rcases kept with ⟨-, kept⟩ | ⟨held', -, -⟩
      · simpa [free] using kept
      · rw [free] at held'
        cases held'

namespace Network

variable {σ : Type} {E : Engine σ} {f : String → List Json → Json} {kept : σ → List Question}

/-- Whether ticket `j` of client `k` is on course. -/
def OnCourse (n : Network σ Local) (k j : Nat) (data : Json) (past : Prop) : Prop :=
  ∃ (c : Client) (t : Ticket), n.members[k]? = some c ∧ c.caller.tickets[j]? = some t ∧
    t.OnCourse data past

/-- A holder of a client or of a ticket of it, who does not terminate it, brings a ticket its fate
    only by giving it up. -/
theorem fate_of_owned {m : Move} {k j : Nat} {a : Caller.Move} (hm : m.owned? = some (k, a))
    {c : Caller} (live : (c.move a).closed = false) {id : MessageId} {fate : Fate}
    (ha : a.fate? id j c = some fate) :
    (a = .expire j ∨ a = .release j) ∧ (m = .release k j ∨ m = .expire k j) := by
  cases m <;> simp only [Move.owned?, reduceCtorEq, Option.some.injEq, Prod.mk.injEq] at hm <;>
    obtain ⟨rfl, rfl⟩ := hm
  case expire k i =>
    by_cases hij : i = j
    · subst hij
      exact ⟨.inl rfl, .inr rfl⟩
    · simp [Caller.Move.fate?, hij] at ha
  case release k i =>
    by_cases hij : i = j
    · subst hij
      exact ⟨.inr rfl, .inl rfl⟩
    · simp [Caller.Move.fate?, hij] at ha
  case terminate => cases live
  case drop =>
    simp only [Caller.Move.fate?] at ha
    split at ha
    · next last =>
      have last' : c.holders - 1 = 0 := by omega
      simp [Caller.move, Caller.act, Caller.letGo, last', Caller.terminate] at live
    · cases ha
  all_goals cases ha

section Moves

variable {due : Nat → List Exchange} {calls : Nat → Nat} {n n' : Network σ Local} {k j : Nat}
  {c : Client} {data : Json} {past : Prop}

namespace OnCourse

theorem mono (course : n.OnCourse k j data past) {past' : Prop} (more : past → past') :
    n.OnCourse k j data past' := by
  obtain ⟨c, t, hc, ht, course⟩ := course
  exact ⟨c, t, hc, ht, course.imp_right (.imp_right (.imp_right more))⟩

/-- What leaves the tickets of a client alone leaves them on course. -/
theorem of_same (course : n.OnCourse k j data past) {c' : Client} (hc : n.members[k]? = some c)
    (hc' : n'.members[k]? = some c') (tickets : c'.caller.tickets = c.caller.tickets) :
    n'.OnCourse k j data past := by
  obtain ⟨d, t, hd, ht, course⟩ := course
  rw [hc] at hd
  cases hd
  exact ⟨c', t, hc', tickets ▸ ht, course⟩

/-- A ticket may be given up, or the time to wait there may be over. -/
theorem owned (s : n.Sound E f kept due calls) (course : n.OnCourse k j data past) {m : Move}
    {a : Caller.Move} (hm : m.owned? = some (k, a)) (live : (n.move E m).Live)
    (few : calls k + (if m.calls k then 1 else 0) < UInt64.size) :
    (n.move E m).OnCourse k j data (past ∨ m = .release k j ∨ m = .expire k j) := by
  obtain ⟨c, t, hc, ht, course⟩ := course
  obtain ⟨used, hu, tidy⟩ := (s.member k c hc).tidy
  obtain ⟨c', hc', moved⟩ := caller_of_owned (E := E) hm hc
  have live' : (c.caller.move a).closed = false := moved ▸ live.2 k c' hc'
  have few' : used + (if a.takesIdentity then 1 else 0) < UInt64.size := by
    rw [takesIdentity_of_owned hm]
    exact Nat.lt_of_le_of_lt (Nat.add_le_add_right hu _) few
  have fates : ∀ fate, a.fate? t.id j c.caller = some fate → fate = .settled (.ok data) ∨
      (a = .expire j ∨ a = .release j) ∧ (past ∨ m = .release k j ∨ m = .expire k j) := by
    intro fate ha
    obtain ⟨ended, which⟩ := fate_of_owned hm live' ha
    exact .inr ⟨ended, .inr which⟩
  obtain ⟨t', ht', course'⟩ := tidy.onCourse_move few' ht course fates .inl
  exact ⟨c', t', hc', moved ▸ ht', course'⟩

theorem sent (s : n.Sound E f kept due calls) (running : n.hub.isRunning)
    (course : n.OnCourse k j data past) (i : Nat) :
    (n.move E (.send k i)).OnCourse k j data past := by
  obtain ⟨c, t, hc, ht, -⟩ := id course
  have sent : (n.act k (Client.sendAt i)).members[k]? = some (c.sendAt i n.hub).2 := by
    rw [act_of_some hc]
    exact (members_set hc _ k).trans (if_pos rfl)
  have tidied : (n.move E (.send k i)).members[k]? =
      some (Client.tidy (n.act k (Client.sendAt i)).hub (c.sendAt i n.hub).2).2 := by
    rw [Network.move, act_of_some sent]
    exact (members_set sent _ k).trans (if_pos rfl)
  refine course.of_same hc tidied ?_
  rw [Client.caller_tidy]
  cases hs : c.caller.sends[i]? with
  | none => rw [Client.Sound.sendAt_of_none hs]
  | some send => rw [(s.member k c hc).sendAt_of_some s.hub (s.lt_sessions hc) running hs]

/-- A delivery brings its answer to the ticket that has the identity, and to no other. -/
theorem forwarded (s : n.Sound E f kept due calls) (few : calls k < UInt64.size) {x : Exchange}
    (hx : (due k)[j]? = some x) (course : n.OnCourse k j x.data past) :
    (n.move E (.forward k)).OnCourse k j x.data past := by
  obtain ⟨c, t, hc, ht, course'⟩ := id course
  have member := s.member k c hc
  have forwarded : (n.move E (.forward k)).members[k]? = some (c.forward n.hub).2 := by
    rw [Network.move, act_of_some hc]
    exact (members_set hc _ k).trans (if_pos rfl)
  cases some_left : n.hub.unread k with
  | nil =>
    rw [member.forward_of_nil s.hub (s.lt_sessions hc) some_left] at forwarded
    exact course.of_same hc forwarded rfl
  | cons bytes rest =>
    obtain ⟨h', read, -, -, -, ⟨y, hy, told⟩, -⟩ := s.hub.read some_left
    rw [member.forward_of_read read] at forwarded
    obtain ⟨used, hu, tidy⟩ := member.tidy
    have few' : used + (if (Caller.Move.receive bytes).takesIdentity then 1 else 0) < UInt64.size :=
      Nat.lt_of_le_of_lt hu few
    have fates : ∀ fate, (Caller.Move.receive bytes).fate? t.id j c.caller = some fate →
        fate = .settled (.ok x.data) := by
      intro fate ha
      obtain ⟨z, hz, id⟩ := member.exchange_of_ticket ht
      rw [hx] at hz
      cases hz
      -- the delivery belongs to an exchange of this client, and identities tell these apart
      rw [Client.Sound.fate_of_told told] at ha
      split at ha
      · next same =>
        cases ha
        rw [member.exchange_inj hy (List.mem_of_getElem? hx) (same.trans id.symm)]
      · cases ha
    obtain ⟨t', ht', course'⟩ :=
      tidy.onCourse_move few' ht course' (fun fate ha => .inl (fates fate ha)) id
    exact ⟨_, t', forwarded, ht', course'⟩

/-- A ticket stays on course to the answer of its call in every move that leaves the network
    live. -/
theorem move (s : n.Sound E f kept due calls) {m : Move} (live : (n.move E m).Live)
    (few : ∀ k, calls k + (if m.calls k then 1 else 0) < UInt64.size) {x : Exchange}
    (hx : (due k)[j]? = some x) (course : n.OnCourse k j x.data past) :
    (n.move E m).OnCourse k j x.data (past ∨ m = .release k j ∨ m = .expire k j) := by
  by_cases about : m.client? = some k
  · cases hm : m.owned? with
    | some p =>
      obtain ⟨l, a⟩ := p
      obtain rfl : l = k := by
        rw [client?_of_owned hm] at about
        exact Option.some.inj about
      exact owned s course hm live (few l)
    | none =>
      cases m <;> simp only [Move.owned?, reduceCtorEq] at hm <;>
        simp only [Move.client?, reduceCtorEq, Option.some.injEq, Option.map_none,
          Move.owned?] at about <;> subst about
      case send l i => exact (sent s (live_of_move live).1 course i).mono .inl
      case forward l => exact (forwarded s (few l) hx course).mono .inl
  · obtain ⟨c, t, hc, -⟩ := id course
    exact (course.of_same hc (member_of_other (E := E) about hc) rfl).mono .inl

/-- A call that finds room in the table is accepted, and its ticket is on course from then on. -/
theorem called (s : n.Sound E f kept due calls) (live : n.Live) (few : calls k + 1 < UInt64.size)
    (hc : n.members[k]? = some c) (room : c.caller.pending < Caller.limit) (method : String)
    (args : List Json) (named : List (String × Json)) :
    let x : Exchange := ⟨⟨c.caller.next⟩, f method (allArgs args named)⟩
    let m : Move := .call k method args named
    (n.call k method args named).2 = some (.ok (due k).length) ∧ m.exchange? f k n = some x ∧
      (n.move E m).OnCourse k (due k).length x.data False := by
  intro x m
  obtain ⟨used, hu, tidy⟩ := (s.member k c hc).tidy
  have closed : ¬ c.caller.closed := by simp [live.2 k c hc]
  have issued := tidy.issue_eq_taken (Nat.lt_of_le_of_lt (Nat.succ_le_succ hu) few) closed room
    method args named
  have length : (due k).length = c.caller.tickets.size := by
    simpa [Caller.ids] using (congrArg List.length (s.member k c hc).ids).symm
  obtain ⟨c', hc', moved⟩ := caller_of_owned (E := E) (m := m) rfl hc
  rw [(n.call_eq k method args named).2.2, changeCaller_of_some hc, issued, length]
  refine ⟨rfl, ?_, c', { id := ⟨c.caller.next⟩ }, hc', ?_, .inl rfl⟩
  · simp [m, x, Move.exchange?, hc, Caller.Move.accepted?, issued]
  · rw [moved]
    simp only [Caller.move, Caller.act, issued]
    exact Caller.tickets_push.mpr (.inr ⟨rfl, rfl⟩)

end OnCourse

end Moves

/-! ## Runs -/

section Runs

variable {n : Network σ Local}

/-- A ticket that is on course stays so for the rest of the run. -/
theorem onCourse_after (A : Answering E f kept) (s : n.Sound E f kept (fun _ => []) fun _ => 0)
    (memberless : n.members.size = 0) {moves more : List Move} (modest : IsModest f (moves ++ more))
    (live : (after E n (moves ++ more)).Live) {k j : Nat} {x : Exchange}
    (hx : (exchanges E f k n moves)[j]? = some x)
    (course : (after E n moves).OnCourse k j x.data False) :
    (after E n (moves ++ more)).OnCourse k j x.data
      (.release k j ∈ more ∨ .expire k j ∈ more) := by
  rw [after, Run.after_append] at live ⊢
  refine Run.after_induction (Network.move E) (motive := fun more n' =>
    IsModest f (moves ++ more) → n'.Live →
    n'.OnCourse k j x.data (.release k j ∈ more ∨ .expire k j ∈ more)) _ ?_ ?_ more modest live
  · exact fun _ _ => course.mono False.elim
  · intro more m ih modest live
    rw [← List.append_assoc] at modest
    have live' := live_of_move live
    have course' := ih modest.of_append live'
    rw [← Run.after_append] at live live' course' ⊢
    obtain ⟨sound, -⟩ := sound_after A s memberless (moves ++ more) modest.of_append live'
    have hx' : (exchanges E f k n (moves ++ more))[j]? = some x := by
      rw [exchanges_append, List.getElem?_append_left (List.getElem?_eq_some_iff.mp hx).1]
      exact hx
    have few := modest.calls
    simp only [callings_concat] at few
    refine (OnCourse.move sound live few hx' course').mono ?_
    rintro ((gone | gone) | rfl | rfl)
    · exact .inl (List.mem_append_left _ gone)
    · exact .inr (List.mem_append_left _ gone)
    · exact .inl (List.mem_append_right _ (List.mem_singleton.mpr rfl))
    · exact .inr (List.mem_append_right _ (List.mem_singleton.mpr rfl))

/-- Where nothing is left to do, no ticket is waiting. -/
theorem not_waiting (A : Answering E f kept) {due : Nat → List Exchange} {calls : Nat → Nat}
    (s : n.Sound E f kept due calls) (live : n.Live) (idle : n.hub.isIdle) {k : Nat} {c : Client}
    (hc : n.members[k]? = some c) (sends : c.caller.sends = []) (still : c.backlog n.hub = 0)
    {j : Nat} {t : Ticket} (ht : c.caller.tickets[j]? = some t) : ¬ t.waiting := by
  intro waits
  have member := s.member k c hc
  obtain ⟨ready, blocked⟩ := Hub.ready_of_idle live.1 idle
  have empty : n.hub.unread k = [] := by
    simp only [Client.backlog, member.forwarding, if_true, member.mailbox,
      Nat.add_eq_zero_iff, List.length_eq_zero_iff] at still
    exact still.1
  obtain ⟨x, hx, -⟩ := member.exchange_of_ticket ht
  -- a pending call would still be in a send, or on its way through the hub
  rcases member.awaited j t x ht waits hx with ⟨send, hs, -⟩ | way
  · rw [sends] at hs
    cases hs
  · exact s.hub.carries_nothing A ready blocked empty x way

/-- In every modest run of clients over an engine that answers method calls by `f` (`Answering`): if
    the network is live, the hub idle, all sends carried out and all deliveries forwarded, then no
    client has a pending call, and each call that was made while `pending < Caller.limit` has its
    own answer as the result of its ticket, unless the ticket was given up (`release`) or timed out
    (`expire`). -/
theorem replies_of_idle (A : Answering E f kept) {engine : σ} (empty : kept engine = [])
    (mode : Mode) (moves : List Move) (modest : IsModest f moves) :
    let start : Network σ Local := { hub := { engine, mode } }
    let n := after E start moves
    n.Live → n.hub.isIdle →
    (∀ c ∈ n.members, c.caller.sends = [] ∧ Client.backlog n.hub c = 0) →
    (∀ c ∈ n.members, c.caller.pending = 0) ∧
    ∀ (before rest : List Move) (k : Nat) (method : String) (args : List Json)
      (named : List (String × Json)), moves = before ++ .call k method args named :: rest →
      ∀ c, (after E start before).members[k]? = some c → c.caller.pending < Caller.limit →
      ∃ j, ((after E start before).call k method args named).2 = some (.ok j) ∧
      ∃ c t, n.members[k]? = some c ∧ c.caller.tickets[j]? = some t ∧
        (t.result = some (.ok (f method (allArgs args named))) ∨
          t.held = false ∧ (.release k j ∈ rest ∨ .expire k j ∈ rest)) := by
  intro start n live idle still
  have memberless : start.members.size = 0 := rfl
  have fresh : start.Sound E f kept (fun _ => []) fun _ => 0 := .start A empty mode
  obtain ⟨sound, -⟩ := sound_after A fresh memberless moves modest live
  have past : ∀ {k : Nat} {c : Client}, n.members[k]? = some c →
      ∀ {j : Nat} {t : Ticket}, c.caller.tickets[j]? = some t → ¬ t.waiting := by
    intro k c hc j t ht
    obtain ⟨sends, backlog⟩ := still c (Array.mem_of_getElem? hc)
    exact not_waiting A sound live idle hc sends backlog ht
  refine ⟨fun c hc => ?_, ?_⟩
  · obtain ⟨k, hc⟩ := Array.getElem?_of_mem hc
    obtain ⟨used, -, tidy⟩ := (sound.member k c hc).tidy
    rw [Caller.pending, List.length_eq_zero_iff, List.eq_nil_iff_forall_not_mem]
    rintro ⟨id, j⟩ entry
    obtain ⟨t, ht, -, waits⟩ := (tidy.entry id j).mp entry
    exact past hc ht waits
  · rintro before rest k method args named rfl c hc room
    let m : Move := .call k method args named
    have live' : (after E start before).Live := live_of_after live
    obtain ⟨sound', -⟩ := sound_after A fresh memberless before modest.of_append live'
    rw [show n = after E start (before ++ [m] ++ rest) by rw [← List.append_cons]] at live past ⊢
    rw [List.append_cons] at modest
    have few : callings k before + 1 < UInt64.size := by
      have few := modest.of_append.calls k
      rw [callings_concat] at few
      simpa [Move.calls] using few
    obtain ⟨accepted, exchange, course⟩ :=
      OnCourse.called sound' live' few hc room method args named
    -- the call is the latest exchange of its client, and from here on its ticket is on course
    have hx : (exchanges E f k start (before ++ [m]))[(exchanges E f k start before).length]? =
        some ⟨⟨c.caller.next⟩, f method (allArgs args named)⟩ := by
      rw [exchanges, Run.seen_concat]
      show (exchanges E f k start before ++ (m.exchange? f k (after E start before)).toList)[_]? = _
      rw [exchange]
      exact List.getElem?_concat_length
    have course' : (after E start (before ++ [m])).OnCourse k (exchanges E f k start before).length
        (f method (allArgs args named)) False := by
      rw [after, Run.after_concat]
      exact course
    refine ⟨_, accepted, ?_⟩
    obtain ⟨c', t, hc', ht, end_⟩ := onCourse_after A fresh memberless modest live hx course'
    exact ⟨c', t, hc', ht, end_.resolve_left (past hc' ht)⟩

end Runs

/-- Two clients issue a call each, under the same identity, and each gets the answer to its own. -/
theorem replies_of_two_clients :
    let f : String → List Json → Json := fun method args => .array (.string method :: args)
    let moves : List Move :=
      [.connect, .connect, .call 0 "load" [] [], .call 1 "save" [.null] [("x", .bool true)],
        .send 1 0, .send 0 0] ++ List.replicate 13 .drive ++ [.forward 0, .forward 1]
    let n := after (attendant f 2) { hub := { engine := [] } } moves
    (∀ c ∈ n.members, c.caller.pending = 0) ∧
    ∃ (j : Nat) (c : Client) (t : Ticket), n.members[1]? = some c ∧ c.caller.tickets[j]? = some t ∧
      t.result = some (.ok (.array [.string "save", .null, .object [("x", .bool true)]])) := by
  intro f moves n
  have modest : IsModest f moves := {
    portable := by
      intro m hm
      simp only [moves, List.mem_append, List.mem_cons, List.mem_replicate, List.not_mem_nil,
        or_false] at hm
      rcases hm with (((rfl | rfl | rfl | rfl | rfl | rfl) | ⟨-, rfl⟩) | rfl | rfl)
      case inl.inl.inr.inr.inl | inl.inl.inr.inr.inr.inl =>
        exact fun id => ⟨⟨rfl, rfl, Nat.le_of_ble_eq_true rfl⟩, ⟨rfl, rfl, Nat.le_of_ble_eq_true rfl⟩⟩
      all_goals trivial
    connects := by decide +kernel
    calls := fun k => Nat.lt_of_le_of_lt List.countP_le_length (by decide) }
  have live : n.Live := by
    refine ⟨by decide +kernel, fun k c hc => ?_⟩
    have all : ∀ c ∈ n.members, c.caller.closed = false := by decide +kernel
    exact all c (Array.mem_of_getElem? hc)
  have still : ∀ c ∈ n.members, c.caller.sends = [] ∧ Client.backlog n.hub c = 0 := by
    have still : ∀ c ∈ n.members, c.caller.sends.isEmpty ∧ Client.backlog n.hub c = 0 := by
      decide +kernel
    exact fun c hc => ⟨List.isEmpty_iff.mp (still c hc).1, (still c hc).2⟩
  obtain ⟨pending, replies⟩ := replies_of_idle (answering_attendant f 2) rfl .cooperative moves
    modest live (by decide +kernel) still
  obtain ⟨j, -, c, t, hc, ht, result⟩ := replies [.connect, .connect, .call 0 "load" [] []] _ 1
    "save" [.null] [("x", .bool true)] rfl _ rfl (by decide)
  refine ⟨pending, j, c, t, hc, ht, result.resolve_right ?_⟩
  rintro ⟨-, gone | gone⟩ <;> simp at gone

end Network

end SessionHub
