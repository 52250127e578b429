import SessionHub.Proofs.Caller.Table

set_option autoImplicit false

/-! # Callers that use identities again

The counter of identities wraps, and a caller that lasts long enough gives an identity again that an
older ticket bears. Some things hold all the same. An entry of the table leads to a waiting ticket
of its identity (`Keyed`). A reply of the viewer comes to a ticket only in an envelope that answers
its call (`Keyed.answered`), and a caller that was terminated never has an entry again
(`Keyed.closed`). -/

namespace SessionHub

/-- Whether the viewer has said what a call came to. -/
def Reply.isAnswer : Reply → Bool
  | .ok _ | .error (.remote _) => true
  | _ => false

namespace Caller

/-- The table leads to waiting tickets, each entry to one of its identity. -/
structure Keyed (c : Caller) : Prop where
  nodup : (c.table.map (·.1)).Nodup
  entry : ∀ (id : MessageId) (k : Nat), (id, k) ∈ c.table →
    ∃ t, c.tickets[k]? = some t ∧ t.id = id ∧ t.waiting
  closed : c.closed → c.table = []

theorem keyed_start (holders : Nat) : Keyed { holders } where
  nodup := List.nodup_nil
  entry _ _ hm := by cases hm
  closed _ := rfl

/-! ## Moves that put no entry into the table -/

namespace Keyed

variable {c : Caller}

theorem of_same (h : c.Keyed) {d : Caller} (table : d.table = c.table)
    (tickets : d.tickets = c.tickets) (closed : d.closed = c.closed) : d.Keyed where
  nodup := table ▸ h.nodup
  entry := by
    rw [table, tickets]
    exact h.entry
  closed past := table.trans (h.closed (closed ▸ past))

/-- Striking a ticket off takes its entry away, if there is one, and no other entry leads to it. -/
theorem of_struck (h : c.Keyed) {d : Caller} {k : Nat} (struck : c.Struck k d) : d.Keyed := by
  cases struck with
  | kept => exact h
  | @off t f ht same past =>
    refine ⟨h.nodup.sublist (List.filter_sublist.map _), ?_, ?_⟩
    · intro id j hm
      obtain ⟨hm, other⟩ := List.mem_filter.mp hm
      obtain ⟨s, hs, rfl, waits⟩ := h.entry id j hm
      have hkj : k ≠ j := by
        rintro rfl
        rw [ht] at hs
        cases hs
        simp at other
      exact ⟨s, by rw [tickets_strike, if_neg hkj, hs], rfl, waits⟩
    · intro closed
      show c.table.filter _ = []
      rw [h.closed closed, List.filter_nil]

theorem lookup_eq_some (h : c.Keyed) {id : MessageId} {k : Nat} :
    c.table.lookup id = some k ↔ (id, k) ∈ c.table := by
  rw [List.lookup_eq_some_iff]
  constructor
  · rintro ⟨l₁, l₂, parts, -⟩
    rw [parts]
    exact List.mem_append_right _ List.mem_cons_self
  · intro entry
    obtain ⟨l₁, l₂, parts⟩ := List.append_of_mem entry
    refine ⟨l₁, l₂, parts, fun e he => ?_⟩
    -- keys are distinct, and so no entry before this one is under its identity
    have nodup := h.nodup
    rw [parts, List.map_append, List.map_cons, List.nodup_append] at nodup
    have other := nodup.2.2 e.1 (List.mem_map.mpr ⟨e, he, rfl⟩) id List.mem_cons_self
    simpa using Ne.symm other

/-- A call that has an entry is completed by striking off the ticket that the entry leads to. -/
theorem complete_of_entry (h : c.Keyed) {id : MessageId} {k : Nat} (entry : (id, k) ∈ c.table)
    (r : Reply) :
    c.complete id r = (c.strike id k fun t => { t with result := some r }, true, []) := by
  obtain ⟨t, ht, -, waits⟩ := h.entry id k entry
  have waiting : c.isWaiting k := (Tidy.isWaiting_iff ht).trans waits
  have waiting' : (c.abandon id).isWaiting k := waiting
  simp only [complete, h.lookup_eq_some.mpr entry, offer, waiting, waiting', if_true]
  rfl

/-- A call that has an entry is completed by striking off the ticket that the entry leads to, and
    any other not at all. -/
theorem complete_cases (h : c.Keyed) (id : MessageId) (r : Reply) :
    (∃ (k : Nat) (t : Ticket), c.tickets[k]? = some t ∧ t.id = id ∧ t.waiting ∧
      (c.complete id r).1 = c.strike id k fun t => { t with result := some r }) ∨
    c.table.lookup id = none ∧ (c.complete id r).1 = c := by
  cases found : c.table.lookup id with
  | none => exact .inr ⟨rfl, by rw [complete, found]⟩
  | some k =>
    have entry := h.lookup_eq_some.mp found
    obtain ⟨t, ht, hid, waits⟩ := h.entry id k entry
    exact .inl ⟨k, t, ht, hid, waits, congrArg Prod.fst (h.complete_of_entry entry r)⟩

theorem struck_complete (h : c.Keyed) (id : MessageId) (r : Reply) :
    ∃ k, c.Struck k (c.complete id r).1 := by
  rcases h.complete_cases id r with ⟨k, t, ht, rfl, -, same⟩ | ⟨-, same⟩ <;> rw [same]
  · exact ⟨k, .off ht (fun _ => rfl) (by simp [Ticket.waiting])⟩
  · exact ⟨0, .kept⟩

theorem lookup_complete (h : c.Keyed) (id : MessageId) (r : Reply) :
    id ∉ (c.complete id r).1.table.map (·.1) := by
  rcases h.complete_cases id r with ⟨k, t, -, -, -, same⟩ | ⟨nothing, same⟩ <;> rw [same]
  · intro hm
    obtain ⟨e, he, hid⟩ := List.mem_map.mp hm
    have other := (List.mem_filter.mp he).2
    simp [hid] at other
  · intro hm
    obtain ⟨e, he, rfl⟩ := List.mem_map.mp hm
    have other := List.lookup_eq_none_iff.mp nothing e he
    simp at other

end Keyed

theorem keyed_terminate (c : Caller) : c.terminate.1.Keyed where
  nodup := List.nodup_nil
  entry _ _ hm := by cases hm
  closed _ := rfl

/-! ## Calls -/

/-- A call takes the place of one that has its identity, which is cancelled. -/
theorem insert_eq (c : Caller) (id : MessageId) :
    let d := (c.complete id (.error .cancelled)).1
    (c.insert id).1 =
      { d with table := (id, c.tickets.size) :: d.table, tickets := d.tickets.push { id } } := by
  unfold insert complete
  cases c.table.lookup id <;> rfl

theorem sends_insert (c : Caller) (id : MessageId) : (c.insert id).1.sends = c.sends := by
  rw [insert_eq]
  exact (frame_complete _ _ _).2.1

/-- What becomes of a call: it is refused, and its identity is used up, or it is taken in, and its
    payload waits to be sent. -/
theorem issue_cases (c : Caller) (method : String) (args : List Json)
    (named : List (String × Json)) :
    let used : Caller := { c with next := c.next + 1 }
    let d := (used.insert ⟨c.next⟩).1
    let send : Send := ⟨⟨c.next⟩, (Envelope.call ⟨c.next⟩ method args named).payload⟩
    (∃ e records, c.issue true method args named = (used, .error e, records)) ∨
    (¬ c.closed ∧ ∃ records : List Record,
      c.issue true method args named =
        ({ d with sends := send :: d.sends }, .ok c.tickets.size, records)) := by
  intro used d send
  by_cases closed : c.closed
  · exact .inl ⟨_, _, issue_of_closed closed method args named⟩
  · by_cases full : limit ≤ c.pending
    · exact .inl ⟨_, _, issue_of_full closed full method args named⟩
    · have room : ¬ limit ≤ used.pending := full
      have live : ¬ used.closed := closed
      refine .inr ⟨closed, (used.insert ⟨c.next⟩).2 ++ [.callIssued ⟨c.next⟩ method], ?_⟩
      simp only [issue, Bool.not_true, Bool.false_eq_true, if_false]
      rw [if_neg live, if_neg room]

theorem Struck.size_eq {c d : Caller} {k : Nat} (struck : c.Struck k d) :
    d.tickets.size = c.tickets.size := by
  cases struck with
  | kept => rfl
  | off ht same past => exact Array.size_modify

namespace Keyed

variable {c : Caller}

theorem insert (h : c.Keyed) (live : ¬ c.closed) (id : MessageId) : (c.insert id).1.Keyed := by
  obtain ⟨k, struck⟩ := h.struck_complete id (.error .cancelled)
  have d := h.of_struck struck
  have absent := h.lookup_complete id (.error .cancelled)
  rw [insert_eq]
  refine ⟨List.nodup_cons.mpr ⟨absent, d.nodup⟩, ?_, ?_⟩
  · intro id' j hm
    rcases List.mem_cons.mp hm with same | hm
    · cases same
      exact ⟨{ id }, tickets_push.mpr (.inr ⟨struck.size_eq.symm, rfl⟩), rfl, rfl⟩
    · obtain ⟨t, ht, hid, waits⟩ := d.entry id' j hm
      exact ⟨t, tickets_push.mpr (.inl ht), hid, waits⟩
  · intro closed
    exact absurd (struck.frame.1.symm.trans closed) live

theorem issue (h : c.Keyed) (method : String) (args : List Json) (named : List (String × Json)) :
    (c.issue true method args named).1.Keyed := by
  rcases c.issue_cases method args named with ⟨e, records, same⟩ | ⟨live, records, same⟩ <;> rw [same]
  · exact h.of_same rfl rfl rfl
  · have counted : ({ c with next := c.next + 1 } : Caller).Keyed := h.of_same rfl rfl rfl
    exact (counted.insert live ⟨c.next⟩).of_same rfl rfl rfl

/-- Every move keeps the table so, also one that gives an identity again. -/
theorem move (h : c.Keyed) (m : Move) : (c.move m).Keyed := by
  have told : m.tells → (c.move m).Keyed := by
    intro tells
    rcases move_of_tells tells with ⟨-, same⟩ | ⟨id, r, -, same⟩ <;> rw [same]
    · exact h
    · obtain ⟨k, struck⟩ := h.struck_complete id r
      exact h.of_struck struck
  cases m with
  | issue scheduled method args named =>
    cases scheduled with
    | false => exact h
    | true => exact h.issue method args named
  | setOut =>
    simp only [Caller.move, act, takeSend?]
    cases c.sends.getLast? with
    | none => exact h
    | some send => exact h.of_same rfl rfl rfl
  | sendEnded id result => exact told rfl
  | answer e => exact told rfl
  | receive bytes => exact told rfl
  | collect k => exact h.of_struck (struck_collect c k)
  | expire k => exact h.of_struck (struck_expire c k)
  | release k => exact h.of_struck (struck_release c k)
  | terminate => exact c.keyed_terminate
  | retain => exact h.of_same rfl rfl rfl
  | letGo =>
    simp only [Caller.move, act, letGo]
    split
    · exact keyed_terminate _
    · exact h.of_same rfl rfl rfl

end Keyed

/-- The table is so after every run, also after one that gives identities again. -/
theorem keyed_run (moves : List Move) : (run {} moves).Keyed :=
  Run.after_induction Caller.move (motive := fun _ c => c.Keyed) {} (keyed_start 1)
    (fun _ m keyed => keyed.move m) moves

/-! ## Termination -/

/-- All calls in the table are cancelled when the caller is terminated. -/
theorem Keyed.cancelled {c : Caller} (h : c.Keyed) {id : MessageId} {k : Nat}
    (entry : (id, k) ∈ c.table) :
    ∃ t, c.terminate.1.tickets[k]? = some t ∧ t.id = id ∧
      t.result = some (.error .cancelled) := by
  obtain ⟨t, ht, hid, waits⟩ := h.entry id k entry
  have listed : k ∈ c.table.map (·.2) := List.mem_map.mpr ⟨(id, k), entry, rfl⟩
  refine ⟨t.offered (.error .cancelled), ?_, (t.id_offered _).trans hid, ?_⟩
  · show (c.table.foldl (fun c e => c.offer e.2 (.error .cancelled)) c).tickets[k]? = _
    rw [tickets_foldl_offer, if_pos listed, ht]
    rfl
  · rw [Ticket.offered, if_pos waits]

theorem sends_terminate (c : Caller) : c.terminate.1.sends = c.sends := by
  show (c.table.foldl (fun c e => c.offer e.2 (.error .cancelled)) c).sends = _
  rw [foldl_offer_eq]

theorem sends_letGo (c : Caller) : c.letGo.1.sends = c.sends := by
  simp only [letGo]
  split
  · exact sends_terminate _
  · rfl

/-- Only issuing calls and carrying sends out changes `sends`. -/
theorem sends_move (c : Caller) {m : Move} (apart : m.touchesSends = false) :
    (c.move m).sends = c.sends := by
  cases m with
  | issue scheduled method args named => cases apart
  | setOut => cases apart
  | sendEnded id result => exact (frame_of_tells rfl).2.1
  | answer e => exact (frame_of_tells rfl).2.1
  | receive bytes => exact (frame_of_tells rfl).2.1
  | collect k => exact (struck_collect c k).frame.2.1
  | expire k => exact (struck_expire c k).frame.2.1
  | release k => exact (struck_release c k).frame.2.1
  | terminate => exact c.sends_terminate
  | retain => rfl
  | letGo => exact c.sends_letGo

theorem sends_issue (c : Caller) (method : String) (args : List Json)
    (named : List (String × Json)) : c.sends <:+ (c.issue true method args named).1.sends := by
  rcases c.issue_cases method args named with ⟨e, records, same⟩ | ⟨-, records, same⟩
  · exact ⟨[], by simp only [same, List.nil_append]⟩
  · simp only [same, sends_insert]
    exact List.suffix_cons _ _

/-- Only `retain` and `letGo` change `holders`. -/
theorem holders_move (c : Caller) (m : Move) : (c.move m).holders =
    match m with
    | .retain => c.holders + 1
    | .letGo => c.holders - 1
    | _ => c.holders := by
  have terminated : ∀ c : Caller, c.terminate.1.holders = c.holders := by
    intro c
    show (c.table.foldl (fun c e => c.offer e.2 (.error .cancelled)) c).holders = _
    rw [foldl_offer_eq]
  cases m with
  | issue scheduled method args named =>
    cases scheduled with
    | false => rfl
    | true =>
      simp only [move, act]
      rcases c.issue_cases method args named with ⟨e, records, same⟩ | ⟨-, records, same⟩ <;>
        rw [same]
      rw [insert_eq]
      exact (frame_complete _ _ _).2.2
  | setOut =>
    simp only [move, act, takeSend?]
    cases c.sends.getLast? <;> rfl
  | sendEnded id result => exact (frame_of_tells rfl).2.2
  | answer e => exact (frame_of_tells rfl).2.2
  | receive bytes => exact (frame_of_tells rfl).2.2
  | collect k => exact (struck_collect c k).frame.2.2
  | expire k => exact (struck_expire c k).frame.2.2
  | release k => exact (struck_release c k).frame.2.2
  | terminate => exact terminated c
  | retain => rfl
  | letGo =>
    simp only [move, act, letGo]
    split
    · exact terminated _
    · rfl

/-! ## What the viewer has said -/

/-- Whether every answer of the viewer on a ticket of `d` is on that ticket of `c`. -/
def NothingSaid (c d : Caller) : Prop :=
  ∀ (k : Nat) (t : Ticket) (r : Reply), d.tickets[k]? = some t → t.result = some r → r.isAnswer →
    ∃ s, c.tickets[k]? = some s ∧ s.id = t.id ∧ s.result = some r

namespace NothingSaid

variable {c d : Caller}

theorem of_same (tickets : d.tickets = c.tickets) : c.NothingSaid d :=
  fun _ t _ ht hr _ => ⟨t, tickets ▸ ht, rfl, hr⟩

theorem trans {b : Caller} (first : b.NothingSaid c) (second : c.NothingSaid d) :
    b.NothingSaid d := by
  intro k t r ht hr answer
  obtain ⟨s, hs, hid, hr'⟩ := second k t r ht hr answer
  obtain ⟨u, hu, hid', hr''⟩ := first k s r hs hr' answer
  exact ⟨u, hu, hid'.trans hid, hr''⟩

theorem struck {k : Nat} (struck : c.Struck k d)
    (silent : ∀ t r, d.tickets[k]? = some t → t.result = some r → r.isAnswer →
      ∃ s, c.tickets[k]? = some s ∧ s.id = t.id ∧ s.result = some r) : c.NothingSaid d := by
  intro j t r ht hr answer
  by_cases hkj : k = j
  · subst hkj
    exact silent t r ht hr answer
  · rw [struck.tickets_of_ne hkj] at ht
    exact ⟨t, ht, rfl, hr⟩

theorem release (c : Caller) (k : Nat) : c.NothingSaid (c.release k) := by
  refine struck (struck_release c k) fun t r ht hr _ => ?_
  cases hs : c.tickets[k]? with
  | none =>
    rw [Caller.release, hs] at ht
    cases hs.symm.trans ht
  | some s =>
    rw [tickets_release hs] at ht
    cases ht
    exact ⟨s, rfl, rfl, hr⟩

theorem collect (c : Caller) (k : Nat) : c.NothingSaid (c.collect k).1 := by
  unfold Caller.collect
  split
  · exact release c k
  · exact of_same rfl

theorem expire (c : Caller) (k : Nat) : c.NothingSaid (c.expire k).1 := by
  by_cases waits : ∃ t, c.tickets[k]? = some t ∧ t.waiting
  · obtain ⟨t, ht, waits⟩ := waits
    refine struck (struck_expire c k) fun t' r ht' hr answer => ?_
    -- the verdict that time is up is not the viewer's
    rw [expire_eq_strike ht waits, tickets_strike, if_pos rfl, ht] at ht'
    cases ht'
    cases hr
    cases answer
  · rw [expire_eq_collect fun t ht hw => waits ⟨t, ht, hw⟩]
    exact collect c k

theorem terminate (c : Caller) : c.NothingSaid c.terminate.1 := by
  intro k t r ht hr answer
  have ht : (c.table.foldl (fun c e => c.offer e.2 (.error .cancelled)) c).tickets[k]? = some t := ht
  rw [tickets_foldl_offer] at ht
  split at ht
  · obtain ⟨s, hs, rfl⟩ := Option.map_eq_some_iff.mp ht
    refine ⟨s, hs, (s.id_offered _).symm, ?_⟩
    unfold Ticket.offered at hr
    split at hr
    · cases hr
      cases answer
    · exact hr
  · exact ⟨t, ht, rfl, hr⟩

theorem letGo (c : Caller) : c.NothingSaid c.letGo.1 := by
  simp only [Caller.letGo]
  split
  · have less : c.NothingSaid { c with holders := c.holders - 1 } := of_same rfl
    exact less.trans (terminate _)
  · exact of_same rfl

/-- A completion by something else than an answer. -/
theorem complete (h : c.Keyed) (id : MessageId) {r : Reply} (other : r.isAnswer = false) :
    c.NothingSaid (c.complete id r).1 := by
  rcases h.complete_cases id r with ⟨k, t, ht, rfl, -, same⟩ | ⟨-, same⟩
  · have off : c.Struck k (c.complete t.id r).1 := by
      rw [same]
      exact .off ht (fun _ => rfl) (by simp [Ticket.waiting])
    refine struck off fun t' r' ht' hr answer => ?_
    rw [same, tickets_strike, if_pos rfl, ht] at ht'
    cases ht'
    cases hr
    rw [other] at answer
    cases answer
  · rw [same]
    exact of_same rfl

theorem issue (h : c.Keyed) (method : String) (args : List Json) (named : List (String × Json)) :
    c.NothingSaid (c.issue true method args named).1 := by
  rcases c.issue_cases method args named with ⟨e, records, same⟩ | ⟨live, records, same⟩ <;> rw [same]
  · exact of_same rfl
  · intro k t r ht hr answer
    have counted : ({ c with next := c.next + 1 } : Caller).Keyed := h.of_same rfl rfl rfl
    rw [insert_eq] at ht
    -- the new ticket has no result yet
    rcases tickets_push.mp ht with ht | ⟨-, rfl⟩
    · exact complete counted ⟨c.next⟩ rfl k t r ht hr answer
    · cases hr

end NothingSaid

/-- A reply of the viewer comes to a ticket in a move that completes a call of its identity while
    the ticket is waiting. -/
theorem Keyed.answered {c : Caller} (h : c.Keyed) (m : Move) {k : Nat} {t : Ticket} {r : Reply}
    (ht : (c.move m).tickets[k]? = some t) (hr : t.result = some r) (answer : r.isAnswer) :
    (∃ s, c.tickets[k]? = some s ∧ s.id = t.id ∧ s.result = some r) ∨
    (m.completion? = some (t.id, r) ∧
      ∃ s, c.tickets[k]? = some s ∧ s.id = t.id ∧ s.waiting) := by
  have unsaid : c.NothingSaid (c.move m) →
      (∃ s, c.tickets[k]? = some s ∧ s.id = t.id ∧ s.result = some r) ∨
      (m.completion? = some (t.id, r) ∧
        ∃ s, c.tickets[k]? = some s ∧ s.id = t.id ∧ s.waiting) :=
    fun nothing => .inl (nothing k t r ht hr answer)
  have told : m.tells →
      (∃ s, c.tickets[k]? = some s ∧ s.id = t.id ∧ s.result = some r) ∨
      (m.completion? = some (t.id, r) ∧
        ∃ s, c.tickets[k]? = some s ∧ s.id = t.id ∧ s.waiting) := by
    intro tells
    rcases move_of_tells tells with ⟨-, same⟩ | ⟨id, r', hm, same⟩ <;> rw [same] at ht
    · exact .inl ⟨t, ht, rfl, hr⟩
    · rw [hm]
      rcases h.complete_cases id r' with ⟨j, s, hs, rfl, waits, same⟩ | ⟨-, same⟩ <;> rw [same] at ht
      · rw [tickets_strike] at ht
        by_cases hjk : j = k
        · subst hjk
          rw [if_pos rfl, hs] at ht
          cases ht
          cases hr
          exact .inr ⟨rfl, s, hs, rfl, waits⟩
        · rw [if_neg hjk] at ht
          exact .inl ⟨t, ht, rfl, hr⟩
      · exact .inl ⟨t, ht, rfl, hr⟩
  cases m with
  | issue scheduled method args named =>
    cases scheduled with
    | false => exact unsaid (.of_same rfl)
    | true => exact unsaid (.issue h method args named)
  | setOut =>
    refine unsaid (.of_same ?_)
    simp only [Caller.move, act, takeSend?]
    cases c.sends.getLast? <;> rfl
  | sendEnded id result => exact told rfl
  | answer e => exact told rfl
  | receive bytes => exact told rfl
  | collect j => exact unsaid (.collect c j)
  | expire j => exact unsaid (.expire c j)
  | release j => exact unsaid (.release c j)
  | terminate => exact unsaid (.terminate c)
  | retain => exact unsaid (.of_same rfl)
  | letGo => exact unsaid (.letGo c)

end Caller

end SessionHub
