import SessionHub.Proofs.Caller.Run

set_option autoImplicit false

/-! # The table of outstanding calls

The table of a caller has exactly one entry for each ticket that is waiting, and none for any other.
This is `Tidy`, with what makes it last: identities are used up in ascending order, so that no two
tickets share one, and a caller that was terminated has an empty table.

Entries leave the table in several ways, but all of them strike one ticket off: it gets a result or
is given up, and the entry under its identity goes (`Tidy.strike`). -/

namespace SessionHub

/-- Whether a record tells of a defect: an identity that was used again, or a call that was
    completed though its ticket was not waiting. -/
def Record.isMishap : Record → Bool
  | .idReused _ | .nobodyWaiting _ => true
  | _ => false

/-- A ticket after it was offered the result `r`: only one that is waiting takes it. -/
def Ticket.offered (r : Reply) (t : Ticket) : Ticket :=
  if t.waiting then { t with result := some r } else t

@[simp] theorem Ticket.id_offered (r : Reply) (t : Ticket) : (t.offered r).id = t.id := by
  unfold offered
  split <;> rfl

@[simp] theorem Ticket.waiting_offered (r : Reply) (t : Ticket) : (t.offered r).waiting = false := by
  unfold offered
  split
  · simp [waiting]
  · next past => simpa using past

@[simp] theorem Ticket.offered_offered (r : Reply) (t : Ticket) :
    (t.offered r).offered r = t.offered r := by
  rw [offered, waiting_offered]
  rfl

namespace Caller

/-- The table fits the tickets of a caller that has used up `used` identities. -/
structure Tidy (c : Caller) (used : Nat) : Prop where
  next : c.next = (used + 1).toUInt64
  /-- Tickets have identities that were used up. -/
  identity : ∀ (k : Nat) (t : Ticket), c.tickets[k]? = some t →
    1 ≤ t.id.val.toNat ∧ t.id.val.toNat ≤ used
  distinct : ∀ (j k : Nat) (s t : Ticket),
    c.tickets[j]? = some s → c.tickets[k]? = some t → s.id = t.id → j = k
  nodup : (c.table.map (·.1)).Nodup
  entry : ∀ (id : MessageId) (k : Nat),
    (id, k) ∈ c.table ↔ ∃ t, c.tickets[k]? = some t ∧ t.id = id ∧ t.waiting
  closed : c.closed → c.table = []

theorem tidy_start : Tidy {} 0 where
  next := rfl
  identity := by simp
  distinct := by simp
  nodup := by simp
  entry := by simp
  closed := by simp

namespace Tidy

variable {c : Caller} {used : Nat}

theorem lookup_eq_some (h : c.Tidy used) {id : MessageId} {k : Nat} :
    c.table.lookup id = some k ↔ ∃ t, c.tickets[k]? = some t ∧ t.id = id ∧ t.waiting := by
  rw [← h.entry]
  constructor
  · intro hl
    obtain ⟨l₁, l₂, hs, -⟩ := List.lookup_eq_some_iff.mp hl
    rw [hs]; simp
  · intro hm
    cases hl : c.table.lookup id with
    | none =>
      have := List.lookup_eq_none_iff.mp hl (id, k) hm
      simp at this
    | some j =>
      obtain ⟨l₁, l₂, hs, -⟩ := List.lookup_eq_some_iff.mp hl
      have hj : (id, j) ∈ c.table := by rw [hs]; simp
      obtain ⟨s, hs, hsid, -⟩ := (h.entry id j).mp hj
      obtain ⟨t, ht, htid, -⟩ := (h.entry id k).mp hm
      rw [h.distinct j k s t hs ht (hsid.trans htid.symm)]

theorem lookup_eq_none (h : c.Tidy used) {id : MessageId} :
    c.table.lookup id = none ↔
      ∀ (k : Nat) (t : Ticket), c.tickets[k]? = some t → t.id = id → ¬ t.waiting := by
  rw [Option.eq_none_iff_forall_ne_some]
  constructor
  · intro hn k t ht hid hw
    exact hn k (h.lookup_eq_some.mpr ⟨t, ht, hid, hw⟩)
  · intro hn k hl
    obtain ⟨t, ht, hid, hw⟩ := h.lookup_eq_some.mp hl
    exact hn k t ht hid hw

theorem mem_keys (h : c.Tidy used) {id : MessageId} :
    id ∈ c.table.map (·.1) ↔
      ∃ (k : Nat) (t : Ticket), c.tickets[k]? = some t ∧ t.id = id ∧ t.waiting := by
  constructor
  · intro hm
    obtain ⟨e, he, rfl⟩ := List.mem_map.mp hm
    exact ⟨e.2, (h.entry e.1 e.2).mp he⟩
  · rintro ⟨k, ht⟩
    exact List.mem_map.mpr ⟨(id, k), (h.entry id k).mpr ht, rfl⟩

/-- Among the entries, that of ticket `k` is told by its identity. -/
theorem fst_ne_iff (h : c.Tidy used) {k : Nat} {t : Ticket} (ht : c.tickets[k]? = some t)
    {e : MessageId × Nat} (he : e ∈ c.table) : e.1 ≠ t.id ↔ e.2 ≠ k := by
  obtain ⟨s, hs, hid, -⟩ := (h.entry e.1 e.2).mp he
  constructor
  · rintro hne rfl
    rw [hs] at ht
    exact hne (hid.symm.trans (congrArg Ticket.id (Option.some.inj ht)))
  · intro hne hid'
    exact hne (h.distinct e.2 k s t hs ht (hid.trans hid'))


end Tidy

/-! ## Striking a ticket off -/

/-- Takes the entry of the identity `id` out of the table and does `f` to ticket `k`. -/
def strike (c : Caller) (id : MessageId) (k : Nat) (f : Ticket → Ticket) : Caller :=
  { c with table := c.table.filter (·.1 ≠ id), tickets := c.tickets.modify k f }

theorem tickets_strike (c : Caller) (id : MessageId) (k j : Nat) (f : Ticket → Ticket) :
    (c.strike id k f).tickets[j]? = if k = j then (c.tickets[j]?).map f else c.tickets[j]? := by
  simp [strike, Array.getElem?_modify]

/-- Whether a caller is left as it was, or with ticket `k` struck off so that it is not waiting any
    more. -/
inductive Struck (k : Nat) (c : Caller) : Caller → Prop where
  | kept : Struck k c c
  | off {t : Ticket} {f : Ticket → Ticket} (ht : c.tickets[k]? = some t)
    (same : ∀ t, (f t).id = t.id) (past : (f t).waiting = false) : Struck k c (c.strike t.id k f)

theorem Struck.tickets_of_ne {c d : Caller} {j k : Nat} (struck : c.Struck j d) (hjk : j ≠ k) :
    d.tickets[k]? = c.tickets[k]? := by
  cases struck with
  | kept => rfl
  | off ht same past => rw [tickets_strike, if_neg hjk]

namespace Tidy

variable {c : Caller} {used : Nat}

/-- A ticket that is struck off so that it is not waiting any more leaves no entry behind, and the
    other entries stay. -/
theorem strike (h : c.Tidy used) {k : Nat} {t : Ticket} (ht : c.tickets[k]? = some t)
    {f : Ticket → Ticket} (same : (f t).id = t.id) (past : (f t).waiting = false) :
    (c.strike t.id k f).Tidy used where
  next := h.next
  identity j s hs := by
    rw [tickets_strike] at hs
    split at hs
    · next hkj =>
      subst hkj
      rw [ht] at hs
      cases hs
      rw [same]
      exact h.identity k t ht
    · exact h.identity j s hs
  distinct i j s s' hs hs' hid := by
    have old : ∀ (i : Nat) (s : Ticket), (c.strike t.id k f).tickets[i]? = some s →
        ∃ s₀, c.tickets[i]? = some s₀ ∧ s₀.id = s.id := by
      intro i s hs
      rw [tickets_strike] at hs
      split at hs
      · next hki =>
        subst hki
        rw [ht] at hs
        cases hs
        exact ⟨t, ht, same.symm⟩
      · exact ⟨s, hs, rfl⟩
    obtain ⟨s₀, hs₀, e₀⟩ := old i s hs
    obtain ⟨s₁, hs₁, e₁⟩ := old j s' hs'
    exact h.distinct i j s₀ s₁ hs₀ hs₁ (by rw [e₀, e₁, hid])
  nodup := h.nodup.sublist ((List.filter_sublist ..).map _)
  entry id j := by
    -- identities are distinct, so that just the entry of ticket `k` is under this one
    have kept : (id, j) ∈ (c.strike t.id k f).table ↔ (id, j) ∈ c.table ∧ j ≠ k := by
      simp only [Caller.strike, List.mem_filter, decide_not, Bool.not_eq_true',
        decide_eq_false_iff_not]
      exact and_congr_right fun he => h.fst_ne_iff ht he
    rw [kept, h.entry, tickets_strike]
    by_cases hkj : k = j
    · subst hkj
      simp [ht, past]
    · simp [hkj, Ne.symm hkj]
  closed hc := by
    simp [Caller.strike, h.closed hc]

theorem of_struck (h : c.Tidy used) {d : Caller} {k : Nat} (struck : c.Struck k d) :
    d.Tidy used := by
  cases struck with
  | kept => exact h
  | off ht same past => exact h.strike ht (same _) past

/-! ## Completing a call -/

theorem isWaiting_iff {k : Nat} {t : Ticket} (ht : c.tickets[k]? = some t) :
    c.isWaiting k = t.waiting := by
  simp [isWaiting, ht]

/-- A pending call is completed by striking its ticket off. -/
theorem complete_eq_strike (h : c.Tidy used) {k : Nat} {t : Ticket} (ht : c.tickets[k]? = some t)
    (waits : t.waiting) (r : Reply) :
    c.complete t.id r = (c.strike t.id k fun t => { t with result := some r }, true, []) := by
  have hl : c.table.lookup t.id = some k := h.lookup_eq_some.mpr ⟨t, ht, rfl, waits⟩
  have hw : c.isWaiting k = true := (isWaiting_iff ht).trans waits
  have hw' : (c.abandon t.id).isWaiting k = true := hw
  simp only [complete, hl, offer, hw, hw', if_true]
  rfl

/-- Any other call is not completed. -/
theorem complete_cases (h : c.Tidy used) (id : MessageId) (r : Reply) :
    (∃ (k : Nat) (t : Ticket), c.tickets[k]? = some t ∧ t.id = id ∧ t.waiting ∧
      c.complete id r = (c.strike t.id k fun t => { t with result := some r }, true, [])) ∨
    (∀ (k : Nat) (t : Ticket), c.tickets[k]? = some t → t.id = id → ¬ t.waiting) ∧
      c.complete id r = (c, false, []) := by
  by_cases waits : ∃ (k : Nat) (t : Ticket), c.tickets[k]? = some t ∧ t.id = id ∧ t.waiting
  · obtain ⟨k, t, ht, rfl, waits⟩ := waits
    exact .inl ⟨k, t, ht, rfl, waits, h.complete_eq_strike ht waits r⟩
  · have idle : ∀ (k : Nat) (t : Ticket), c.tickets[k]? = some t → t.id = id → ¬ t.waiting :=
      fun k t ht hid hw => waits ⟨k, t, ht, hid, hw⟩
    exact .inr ⟨idle, by simp only [complete, h.lookup_eq_none.mpr idle]⟩

theorem struck_complete (h : c.Tidy used) (id : MessageId) (r : Reply) :
    ∃ k, c.Struck k (c.complete id r).1 := by
  rcases h.complete_cases id r with ⟨k, t, ht, -, -, same⟩ | ⟨-, same⟩ <;> rw [same]
  · exact ⟨k, .off ht (fun _ => rfl) (by simp [Ticket.waiting])⟩
  · exact ⟨0, .kept⟩

theorem complete_logs_nothing (h : c.Tidy used) (id : MessageId) (r : Reply) :
    (c.complete id r).2.2 = [] := by
  rcases h.complete_cases id r with ⟨k, t, -, -, -, same⟩ | ⟨-, same⟩ <;> rw [same]

end Tidy

/-! ## The moves of the holder of a ticket -/

section Holder

variable {c : Caller}

theorem release_eq_strike {k : Nat} {t : Ticket} (ht : c.tickets[k]? = some t) (held : t.held) :
    c.release k = c.strike t.id k fun t => { t with held := false } := by
  simp only [release, ht, held, if_true]
  rfl

theorem release_eq_self {k : Nat} (free : ∀ t, c.tickets[k]? = some t → ¬ t.held) :
    c.release k = c := by
  unfold release
  cases ht : c.tickets[k]? with
  | none => rfl
  | some t => simp [free t ht]

theorem struck_release (c : Caller) (k : Nat) : c.Struck k (c.release k) := by
  by_cases held : ∃ t, c.tickets[k]? = some t ∧ t.held
  · obtain ⟨t, ht, held⟩ := held
    rw [release_eq_strike ht held]
    exact .off ht (fun _ => rfl) (by simp [Ticket.waiting])
  · rw [release_eq_self fun t ht hh => held ⟨t, ht, hh⟩]
    exact .kept

theorem struck_collect (c : Caller) (k : Nat) : c.Struck k (c.collect k).1 := by
  unfold collect
  split
  · exact struck_release c k
  · exact .kept

/-- A wait that ends without a result strikes the ticket off with the verdict that time is up. -/
theorem expire_eq_strike {k : Nat} {t : Ticket} (ht : c.tickets[k]? = some t) (waits : t.waiting) :
    c.expire k =
      (c.strike t.id k fun t => { t with result := some (.error .timeout), held := false },
        some (.error .timeout), [.callTimedOut t.id]) := by
  simp only [Ticket.waiting, Bool.and_eq_true, Option.isNone_iff_eq_none] at waits
  have hs : (c.settle k (.error .timeout)).tickets[k]? =
      some { t with result := some (.error .timeout) } := by
    simp [settle, Array.getElem?_modify, ht]
  have hr := release_eq_strike hs waits.1
  simp only [expire, ht, waits.1, waits.2, Bool.not_true, Bool.false_eq_true, if_false, hr]
  simp only [Caller.strike, settle, Prod.mk.injEq, and_true]
  congr 1
  exact Array.ext_getElem? fun j => by
    simp only [Array.getElem?_modify]
    split <;> simp [Function.comp_def]

/-- A wait that does not end without a result ends as if one had only asked. -/
theorem expire_eq_collect {k : Nat} (past : ∀ t, c.tickets[k]? = some t → ¬ t.waiting) :
    c.expire k = ((c.collect k).1, (c.collect k).2, []) := by
  unfold expire collect result?
  cases ht : c.tickets[k]? with
  | none => rfl
  | some t =>
    have := past t ht
    cases held : t.held <;> cases hr : t.result <;>
      simp_all [Ticket.waiting]

theorem struck_expire (c : Caller) (k : Nat) : c.Struck k (c.expire k).1 := by
  by_cases waits : ∃ t, c.tickets[k]? = some t ∧ t.waiting
  · obtain ⟨t, ht, waits⟩ := waits
    rw [expire_eq_strike ht waits]
    exact .off ht (fun _ => rfl) (by simp [Ticket.waiting])
  · rw [expire_eq_collect fun t ht hw => waits ⟨t, ht, hw⟩]
    exact struck_collect c k

theorem tickets_release {k : Nat} {t : Ticket} (ht : c.tickets[k]? = some t) :
    (c.release k).tickets[k]? = some { t with held := false } := by
  by_cases held : t.held
  · simp [release_eq_strike ht held, tickets_strike, ht]
  · have free : ∀ s, c.tickets[k]? = some s → ¬ s.held := by
      intro s hs
      rw [ht] at hs
      cases hs
      exact held
    rw [release_eq_self free, ht]
    simp only [Bool.not_eq_true] at held
    rw [← held]

theorem collect_eq {k : Nat} {t : Ticket} {r : Reply} (ht : c.tickets[k]? = some t)
    (held : t.held) (hr : t.result = some r) : c.collect k = (c.release k, some r) := by
  simp [collect, result?, ht, held, hr]

theorem collect_eq_self {k : Nat}
    (nothing : ∀ t, c.tickets[k]? = some t → t.held → t.result = none) :
    c.collect k = (c, none) := by
  have hn : c.result? k = none := by
    unfold result?
    cases ht : c.tickets[k]? with
    | none => rfl
    | some t => cases held : t.held <;> simp_all
  simp only [collect, hn]

/-- A ticket is not held any more when the wait there has ended. -/
theorem held_expire {k : Nat} {t : Ticket} (ht : c.tickets[k]? = some t) :
    ∃ s, (c.expire k).1.tickets[k]? = some s ∧ s.id = t.id ∧ s.held = false := by
  by_cases waits : t.waiting
  · rw [expire_eq_strike ht waits]
    refine ⟨{ t with result := some (.error .timeout), held := false }, ?_, rfl, rfl⟩
    rw [tickets_strike, if_pos rfl, ht]
    rfl
  · have past : ∀ s, c.tickets[k]? = some s → ¬ s.waiting := by
      intro s hs
      rw [ht] at hs
      cases hs
      exact waits
    rw [expire_eq_collect past]
    by_cases held : t.held
    · obtain ⟨r, hr⟩ : ∃ r, t.result = some r := by
        rw [← Option.ne_none_iff_exists']
        simpa [Ticket.waiting, held] using waits
      rw [collect_eq ht held hr]
      exact ⟨_, tickets_release ht, rfl, rfl⟩
    · have nothing : ∀ s, c.tickets[k]? = some s → s.held → s.result = none := by
        intro s hs held'
        rw [ht] at hs
        cases hs
        exact absurd held' held
      rw [collect_eq_self nothing]
      exact ⟨t, ht, rfl, by simpa using held⟩

end Holder

/-! ## Termination -/

theorem tickets_offer (c : Caller) (k j : Nat) (r : Reply) :
    (c.offer k r).tickets[j]? =
      if k = j then (c.tickets[j]?).map (Ticket.offered r) else c.tickets[j]? := by
  unfold offer
  split
  · next waits =>
    simp only [settle, Array.getElem?_modify]
    split
    · next hkj =>
      subst hkj
      cases ht : c.tickets[k]? with
      | none => rfl
      | some t =>
        rw [isWaiting, ht] at waits
        simp [Ticket.offered, show t.waiting = true from waits]
    · rfl
  · next waits =>
    split
    · next hkj =>
      subst hkj
      cases ht : c.tickets[k]? with
      | none => rfl
      | some t =>
        rw [isWaiting, ht] at waits
        simp [Ticket.offered, show t.waiting = false by simpa using waits]
    · rfl

theorem tickets_foldl_offer (l : List (MessageId × Nat)) (c : Caller) (r : Reply) (j : Nat) :
    (l.foldl (fun c e => c.offer e.2 r) c).tickets[j]? =
      if j ∈ l.map (·.2) then (c.tickets[j]?).map (Ticket.offered r) else c.tickets[j]? := by
  induction l generalizing c with
  | nil => simp
  | cons e l ih =>
    rw [List.foldl_cons, ih, tickets_offer]
    by_cases hj : e.2 = j
    · subst hj
      cases c.tickets[e.2]? <;> simp
    · have same : j ∈ (e :: l).map (·.2) ↔ j ∈ l.map (·.2) := by simp [Ne.symm hj]
      simp only [hj, if_false, same]

/-- Offers write on tickets and on nothing else. -/
theorem foldl_offer_eq (l : List (MessageId × Nat)) (c : Caller) (r : Reply) :
    l.foldl (fun c e => c.offer e.2 r) c =
      { c with tickets := (l.foldl (fun c e => c.offer e.2 r) c).tickets } := by
  induction l generalizing c with
  | nil => rfl
  | cons e l ih =>
    obtain ⟨tickets, one⟩ : ∃ tickets, c.offer e.2 r = { c with tickets } := by
      unfold offer
      split
      · exact ⟨_, rfl⟩
      · exact ⟨c.tickets, rfl⟩
    rw [List.foldl_cons, one, ih]

namespace Tidy

variable {c : Caller} {used : Nat}

/-- Termination cancels the pending calls, and empties the table. -/
theorem terminate_eq (h : c.Tidy used) :
    c.terminate.1 =
      { c with
        table := []
        closed := true
        tickets := c.tickets.map (Ticket.offered (.error .cancelled)) } := by
  have fold : c.terminate.1 = { (c.table.foldl (fun c e => c.offer e.2 (.error .cancelled)) c) with
      table := [], closed := true } := rfl
  rw [fold, foldl_offer_eq]
  simp only [mk.injEq, and_true, true_and]
  refine Array.ext_getElem? fun j => ?_
  rw [tickets_foldl_offer, Array.getElem?_map]
  split
  · rfl
  · next absent =>
    cases ht : c.tickets[j]? with
    | none => rfl
    | some t =>
      -- no entry leads to this ticket: it was not offered anything, and would not take it
      have past : t.waiting = false := by
        rw [← Bool.not_eq_true]
        intro waits
        exact absent (List.mem_map.mpr ⟨(t.id, j), (h.entry t.id j).mpr ⟨t, ht, rfl, waits⟩, rfl⟩)
      simp [Ticket.offered, past]

theorem terminate (h : c.Tidy used) : c.terminate.1.Tidy used := by
  rw [h.terminate_eq]
  have past : ∀ t : Ticket, (t.offered (.error .cancelled)).waiting = false :=
    Ticket.waiting_offered _
  have same : ∀ t : Ticket, (t.offered (.error .cancelled)).id = t.id := Ticket.id_offered _
  exact {
    next := h.next
    identity := by
      intro k t ht
      simp only [Array.getElem?_map, Option.map_eq_some_iff] at ht
      obtain ⟨s, hs, rfl⟩ := ht
      rw [same]
      exact h.identity k s hs
    distinct := by
      intro j k s t hs ht hid
      simp only [Array.getElem?_map, Option.map_eq_some_iff] at hs ht
      obtain ⟨s, hs, rfl⟩ := hs
      obtain ⟨t, ht, rfl⟩ := ht
      exact h.distinct j k s t hs ht (by rwa [same, same] at hid)
    nodup := List.nodup_nil
    entry := by
      intro id k
      constructor
      · intro hm
        cases hm
      · rintro ⟨t, ht, -, waits⟩
        simp only [Array.getElem?_map, Option.map_eq_some_iff] at ht
        obtain ⟨s, -, rfl⟩ := ht
        rw [past] at waits
        cases waits
    closed := fun _ => rfl }

end Tidy

/-! ## Calls -/

/-- The caller after it has taken in a call: an entry and a ticket more, and a send. -/
def taken (c : Caller) (method : String) (args : List Json) (named : List (String × Json)) :
    Caller :=
  let id : MessageId := ⟨c.next⟩
  { c with
    table := (id, c.tickets.size) :: c.table
    tickets := c.tickets.push { id }
    sends := ⟨id, (Envelope.call id method args named).payload⟩ :: c.sends
    next := c.next + 1 }

theorem issue_of_closed {c : Caller} (closed : c.closed) (method : String) (args : List Json)
    (named : List (String × Json)) :
    c.issue true method args named = ({ c with next := c.next + 1 }, .error .terminated, []) := by
  simp [issue, closed]

theorem issue_of_full {c : Caller} (live : ¬ c.closed) (full : limit ≤ c.pending) (method : String)
    (args : List Json) (named : List (String × Json)) :
    c.issue true method args named =
      ({ c with next := c.next + 1 }, .error .atCapacity, [.tooManyCalls ⟨c.next⟩ limit]) := by
  have full' : limit ≤ c.table.length := full
  simp [issue, pending, live, full']

theorem tickets_push {c : Caller} {t s : Ticket} {k : Nat} :
    (c.tickets.push t)[k]? = some s ↔
      c.tickets[k]? = some s ∨ k = c.tickets.size ∧ s = t := by
  rw [Array.getElem?_push]
  split
  · next hk =>
    subst hk
    simp [eq_comm]
  · next hk => simp [hk]

namespace Tidy

variable {c : Caller} {used : Nat}

theorem next_toNat (h : c.Tidy used) (few : used + 1 < UInt64.size) : c.next.toNat = used + 1 := by
  rw [h.next, Nat.toUInt64_eq, UInt64.toNat_ofNat', Nat.mod_eq_of_lt few]

/-- No ticket has the identity of the next call. -/
theorem id_ne_next (h : c.Tidy used) (few : used + 1 < UInt64.size) {k : Nat} {t : Ticket}
    (ht : c.tickets[k]? = some t) : t.id ≠ ⟨c.next⟩ := by
  intro same
  have below := (h.identity k t ht).2
  rw [same, h.next_toNat few] at below
  omega

/-- A caller that was not terminated and has room takes a call in. -/
theorem issue_eq_taken (h : c.Tidy used) (few : used + 1 < UInt64.size) (live : ¬ c.closed)
    (room : c.pending < limit) (method : String) (args : List Json)
    (named : List (String × Json)) :
    c.issue true method args named =
      (c.taken method args named, .ok c.tickets.size, [.callIssued ⟨c.next⟩ method]) := by
  have new : c.table.lookup ⟨c.next⟩ = none :=
    h.lookup_eq_none.mpr fun k t ht same => absurd same (h.id_ne_next few ht)
  have room' : ¬ limit ≤ c.table.length := Nat.not_le.mpr room
  simp [issue, pending, live, room', insert, new, taken]

/-- Calls that are refused use up their identity and change nothing else. -/
theorem refuse (h : c.Tidy used) : ({ c with next := c.next + 1 } : Caller).Tidy (used + 1) where
  next := by
    show c.next + 1 = (used + 1 + 1).toUInt64
    rw [h.next]
    simp
  identity k t ht := ⟨(h.identity k t ht).1, Nat.le_succ_of_le (h.identity k t ht).2⟩
  distinct := h.distinct
  nodup := h.nodup
  entry := h.entry
  closed := h.closed

theorem take (h : c.Tidy used) (few : used + 1 < UInt64.size) (live : ¬ c.closed) (method : String)
    (args : List Json) (named : List (String × Json)) :
    (c.taken method args named).Tidy (used + 1) where
  next := h.refuse.next
  identity k t ht := by
    rcases tickets_push.mp ht with ht | ⟨-, rfl⟩
    · exact ⟨(h.identity k t ht).1, Nat.le_succ_of_le (h.identity k t ht).2⟩
    · show 1 ≤ c.next.toNat ∧ c.next.toNat ≤ used + 1
      rw [h.next_toNat few]
      omega
  distinct j k s t hs ht same := by
    rcases tickets_push.mp hs with hs | ⟨hj, rfl⟩ <;>
      rcases tickets_push.mp ht with ht | ⟨hk, rfl⟩
    · exact h.distinct j k s t hs ht same
    · exact absurd same (h.id_ne_next few hs)
    · exact absurd same.symm (h.id_ne_next few ht)
    · rw [hj, hk]
  nodup := by
    refine List.nodup_cons.mpr ⟨fun hm => ?_, h.nodup⟩
    obtain ⟨e, he, hid⟩ := List.mem_map.mp hm
    obtain ⟨t, ht, hid', -⟩ := (h.entry e.1 e.2).mp he
    exact h.id_ne_next few ht (hid'.trans hid)
  entry id k := by
    show (id, k) ∈ (⟨c.next⟩, c.tickets.size) :: c.table ↔ _
    rw [List.mem_cons, h.entry]
    constructor
    · rintro (same | ⟨t, ht, hid, waits⟩)
      · cases same
        exact ⟨_, tickets_push.mpr (.inr ⟨rfl, rfl⟩), rfl, rfl⟩
      · exact ⟨t, tickets_push.mpr (.inl ht), hid, waits⟩
    · rintro ⟨t, ht, hid, waits⟩
      rcases tickets_push.mp ht with ht | ⟨hk, rfl⟩
      · exact .inr ⟨t, ht, hid, waits⟩
      · exact .inl (by rw [hk, ← hid])
  closed closed := absurd closed live

/-- Sends and holders have no part in it. -/
theorem withOthers (h : c.Tidy used) (sends : List Send) (holders : Nat) :
    ({ c with sends, holders } : Caller).Tidy used :=
  ⟨h.next, h.identity, h.distinct, h.nodup, h.entry, h.closed⟩

end Tidy

/-! ## Frames -/

section Frames

variable {c : Caller}

theorem frame_complete (c : Caller) (id : MessageId) (r : Reply) :
    (c.complete id r).1.closed = c.closed ∧ (c.complete id r).1.sends = c.sends ∧
      (c.complete id r).1.holders = c.holders := by
  unfold complete
  split
  · exact ⟨rfl, rfl, rfl⟩
  · unfold offer
    split <;> exact ⟨rfl, rfl, rfl⟩

theorem Struck.frame {d : Caller} {k : Nat} (struck : c.Struck k d) :
    d.closed = c.closed ∧ d.sends = c.sends ∧ d.holders = c.holders := by
  cases struck <;> exact ⟨rfl, rfl, rfl⟩

theorem frame_of_tells {m : Move} (tells : m.tells) :
    (c.move m).closed = c.closed ∧ (c.move m).sends = c.sends ∧
      (c.move m).holders = c.holders := by
  rcases move_of_tells tells with ⟨-, same⟩ | ⟨id, r, -, same⟩ <;> rw [same]
  · exact ⟨rfl, rfl, rfl⟩
  · exact c.frame_complete id r

/-- A caller that was terminated stays so. -/
theorem closed_move (past : c.closed) (m : Move) : (c.move m).closed := by
  cases m with
  | issue scheduled method args named =>
    cases scheduled with
    | false => exact past
    | true =>
      simp only [move, act, issue_of_closed past]
      exact past
  | setOut =>
    simp only [move, act, takeSend?]
    cases c.sends.getLast? <;> exact past
  | sendEnded id result => exact (frame_of_tells rfl).1.trans past
  | answer e => exact (frame_of_tells rfl).1.trans past
  | receive bytes => exact (frame_of_tells rfl).1.trans past
  | collect k => exact (struck_collect c k).frame.1.trans past
  | expire k => exact (struck_expire c k).frame.1.trans past
  | release k => exact (struck_release c k).frame.1.trans past
  | terminate => rfl
  | retain => exact past
  | letGo =>
    simp only [move, act, letGo]
    split
    · rfl
    · exact past

/-- Whether a move adds a send or takes one away. -/
def Move.touchesSends : Move → Bool
  | .issue .. | .setOut => true
  | _ => false

/-- A move that does not terminate the caller leaves the sends as they are, unless it is about them,
    and leaves a holder. -/
theorem frame_move {m : Move} (apart : m.touchesSends = false)
    (live : (c.move m).closed = false) :
    (c.move m).sends = c.sends ∧ (c.holders ≠ 0 → (c.move m).holders ≠ 0) := by
  have same : ∀ {d : Caller}, d.closed = c.closed ∧ d.sends = c.sends ∧ d.holders = c.holders →
      d.sends = c.sends ∧ (c.holders ≠ 0 → d.holders ≠ 0) :=
    fun ⟨_, sends, holders⟩ => ⟨sends, fun held => holders ▸ held⟩
  cases m with
  | issue scheduled method args named => cases apart
  | setOut => cases apart
  | sendEnded id result => exact same (frame_of_tells rfl)
  | answer e => exact same (frame_of_tells rfl)
  | receive bytes => exact same (frame_of_tells rfl)
  | collect k => exact same (struck_collect c k).frame
  | expire k => exact same (struck_expire c k).frame
  | release k => exact same (struck_release c k).frame
  | terminate => cases live
  | retain => exact ⟨rfl, fun _ => Nat.succ_ne_zero _⟩
  | letGo =>
    simp only [move, act, letGo] at live ⊢
    split
    · next last =>
      rw [if_pos last] at live
      cases live
    · next more => exact ⟨rfl, fun _ => more⟩

end Frames

/-! ## Accepted calls -/

/-- The identities of the calls that were accepted, in order. -/
def ids (c : Caller) : List MessageId :=
  c.tickets.toList.map (·.id)

theorem ids_strike (c : Caller) (id : MessageId) (k : Nat) {f : Ticket → Ticket}
    (same : ∀ t, (f t).id = t.id) : (c.strike id k f).ids = c.ids := by
  have modified : ∀ (l : List Ticket) (k : Nat), (l.modify k f).map (·.id) = l.map (·.id) := by
    intro l
    induction l with
    | nil => simp
    | cons t l ih =>
      intro k
      cases k <;> simp [same, ih]
  rw [ids, strike, Array.toList_modify, modified, ids]

theorem Struck.ids_eq {c d : Caller} {k : Nat} (struck : c.Struck k d) : d.ids = c.ids := by
  cases struck with
  | kept => rfl
  | off ht same past => exact ids_strike _ _ _ same

namespace Tidy

variable {c : Caller} {used : Nat}

theorem ids_terminate (h : c.Tidy used) : c.terminate.1.ids = c.ids := by
  rw [h.terminate_eq, ids, ids, Array.toList_map, List.map_map]
  exact List.map_congr_left fun t _ => t.id_offered _

/-- Tickets are added when calls are accepted, and never else. -/
theorem ids_move (h : c.Tidy used) (m : Move)
    (few : used + (if m.takesIdentity then 1 else 0) < UInt64.size) :
    (c.move m).ids = c.ids ++ (m.accepted? c).toList := by
  have kept : ∀ d : Caller, d.ids = c.ids → d.ids = c.ids ++ [] := by
    intro d same
    rw [same, List.append_nil]
  have completed : ∀ m : Move, m.tells → (c.move m).ids = c.ids := by
    intro m tells
    rcases move_of_tells tells with ⟨-, same⟩ | ⟨id, r, -, same⟩ <;> rw [same]
    obtain ⟨k, struck⟩ := h.struck_complete id r
    exact struck.ids_eq
  cases m with
  | issue scheduled method args named =>
    cases scheduled with
    | false => exact kept _ rfl
    | true =>
      by_cases closed : c.closed
      · simp only [move, Caller.act, Move.accepted?, issue_of_closed closed]
        exact kept _ rfl
      · by_cases full : limit ≤ c.pending
        · simp only [move, Caller.act, Move.accepted?, issue_of_full closed full]
          exact kept _ rfl
        · simp only [move, Caller.act, Move.accepted?,
            h.issue_eq_taken few closed (Nat.not_le.mp full)]
          simp [ids, taken]
  | setOut =>
    refine kept _ ?_
    simp only [move, Caller.act, takeSend?]
    cases c.sends.getLast? <;> rfl
  | sendEnded id result => exact kept _ (completed _ rfl)
  | answer e => exact kept _ (completed _ rfl)
  | receive bytes => exact kept _ (completed _ rfl)
  | collect k => exact kept _ (struck_collect c k).ids_eq
  | expire k => exact kept _ (struck_expire c k).ids_eq
  | release k => exact kept _ (struck_release c k).ids_eq
  | terminate => exact kept _ h.ids_terminate
  | retain => exact kept _ rfl
  | letGo =>
    refine kept _ ?_
    simp only [move, Caller.act, letGo]
    split
    · exact (h.withOthers c.sends (c.holders - 1)).ids_terminate
    · rfl

end Tidy

/-! ## Runs -/

namespace Tidy

variable {c : Caller} {used : Nat}

theorem issue (h : c.Tidy used) (few : used + 1 < UInt64.size) (method : String) (args : List Json)
    (named : List (String × Json)) :
    (c.issue true method args named).1.Tidy (used + 1) ∧
      ∀ x ∈ (c.issue true method args named).2.2, x.isMishap = false := by
  by_cases closed : c.closed
  · rw [issue_of_closed closed]
    exact ⟨h.refuse, by simp⟩
  · by_cases full : limit ≤ c.pending
    · rw [issue_of_full closed full]
      exact ⟨h.refuse, by simp [Record.isMishap]⟩
    · rw [h.issue_eq_taken few closed (Nat.not_le.mp full)]
      exact ⟨h.take few closed method args named, by simp [Record.isMishap]⟩

/-- Each move keeps the table tidy, and none logs a mishap. -/
theorem act (h : c.Tidy used) (m : Move)
    (few : used + (if m.takesIdentity then 1 else 0) < UInt64.size) :
    (c.move m).Tidy (used + if m.takesIdentity then 1 else 0) ∧
      ∀ x ∈ (c.act m).2, x.isMishap = false := by
  -- a reply that comes late finds no entry, and one that finds its entry finds a waiting ticket
  have told : m.tells → (c.move m).Tidy used ∧ ∀ x ∈ (c.act m).2, x.isMishap = false := by
    intro tells
    cases hm : m.completion? with
    | none =>
      obtain ⟨same, logs⟩ := act_of_no_completion (c := c) tells hm
      refine ⟨by rw [move, same]; exact h, fun x hx => ?_⟩
      rcases logs x hx with ⟨kind, id, rfl⟩ | ⟨reason, rfl⟩ <;> rfl
    | some p =>
      obtain ⟨id, r⟩ := p
      obtain ⟨same, logs⟩ := act_of_completion (c := c) hm
      obtain ⟨k, struck⟩ := h.struck_complete id r
      refine ⟨by rw [move, same]; exact h.of_struck struck, fun x hx => ?_⟩
      rcases logs x hx with hx | rfl | ⟨reason, rfl⟩
      · rw [h.complete_logs_nothing id r] at hx
        cases hx
      · rfl
      · rfl
  have terminated : ∀ {c : Caller}, ∀ x ∈ c.terminate.2.2, x.isMishap = false := by
    intro c x hx
    simp only [Caller.terminate, List.mem_append, List.mem_map] at hx
    rcases hx with ⟨id, -, rfl⟩ | hx
    · rfl
    · split at hx
      · cases hx
      · cases List.mem_singleton.mp hx
        rfl
  cases m with
  | issue scheduled method args named =>
    cases scheduled with
    | false => exact ⟨h, by simp [Caller.act, Caller.issue, Record.isMishap]⟩
    | true => exact h.issue few method args named
  | setOut =>
    refine ⟨?_, by simp [Caller.act]⟩
    simp only [move, Caller.act, takeSend?]
    cases c.sends.getLast? with
    | none => exact h
    | some send => exact h.withOthers c.sends.dropLast c.holders
  | sendEnded id result => exact told rfl
  | answer e => exact told rfl
  | receive bytes => exact told rfl
  | collect k => exact ⟨h.of_struck (struck_collect c k), by simp [Caller.act]⟩
  | expire k =>
    refine ⟨h.of_struck (struck_expire c k), fun x hx => ?_⟩
    by_cases waits : ∃ t, c.tickets[k]? = some t ∧ t.waiting
    · obtain ⟨t, ht, waits⟩ := waits
      simp only [Caller.act, expire_eq_strike ht waits, List.mem_singleton] at hx
      rw [hx]
      rfl
    · simp only [Caller.act, expire_eq_collect fun t ht hw => waits ⟨t, ht, hw⟩] at hx
      cases hx
  | release k => exact ⟨h.of_struck (struck_release c k), by simp [Caller.act]⟩
  | terminate => exact ⟨h.terminate, terminated⟩
  | retain => exact ⟨h.withOthers c.sends (c.holders + 1), by simp [Caller.act]⟩
  | letGo =>
    have less := h.withOthers c.sends (c.holders - 1)
    simp only [move, Caller.act, letGo]
    split
    · exact ⟨less.terminate, terminated⟩
    · exact ⟨less, by simp⟩

end Tidy

/-- After every run that does not use up all identities the table is tidy, tickets are those of the
    accepted calls, and no mishap has been logged. -/
theorem tidy_run (moves : List Move) (few : identities moves < UInt64.size) :
    (run {} moves).Tidy (identities moves) ∧ (run {} moves).ids = accepted {} moves ∧
      ∀ x ∈ logged {} moves, x.isMishap = false := by
  refine Run.after_induction move (motive := fun moves c => identities moves < UInt64.size →
    c.Tidy (identities moves) ∧ c.ids = accepted {} moves ∧
      ∀ x ∈ logged {} moves, x.isMishap = false) {} ?_ ?_ moves few
  · intro _
    exact ⟨tidy_start, rfl, by simp [logged]⟩
  · intro moves m ih few
    rw [identities_concat] at few ⊢
    obtain ⟨tidy, ids, logs⟩ := ih (by omega)
    obtain ⟨tidy', logs'⟩ := tidy.act m few
    refine ⟨tidy', ?_, fun x hx => ?_⟩
    · rw [tidy.ids_move m few, ids, accepted, accepted, Run.seen_concat]
    · rw [logged, Run.seen_concat, List.mem_append] at hx
      exact hx.elim (logs x) (logs' x)

/-- After every run of fewer than `2 ^ 64` identities there is a ticket for each accepted call, and
    the keys of `table` are the identities of the tickets that are held and have no result, each
    once. `expire` leaves no key behind, and `complete` reaches every such ticket through its key.
    Keys are at least one and below `next`, a closed caller has none, and neither `idReused` nor
    `nobodyWaiting` was ever logged. -/
theorem table_keys_iff_waiting (moves : List Move) (few : identities moves < UInt64.size) :
    let c := run {} moves
    let keys := c.table.map (·.1)
    c.tickets.toList.map (·.id) = accepted {} moves ∧
    (∀ id, id ∈ keys ↔ ∃ t ∈ c.tickets, t.id = id ∧ t.held ∧ t.result = none) ∧
    keys.Nodup ∧
    (∀ (k : Nat) (t : Ticket), c.tickets[k]? = some t →
      t.id ∉ (c.expire k).1.table.map (·.1) ∧
      (t.held → t.result = none → ∀ r, (c.complete t.id r).2.1 = true ∧
        (c.complete t.id r).1.tickets[k]? = some { t with result := some r })) ∧
    c.next = (identities moves + 1).toUInt64 ∧
    (∀ id ∈ keys, 1 ≤ id.val.toNat ∧ id.val.toNat < identities moves + 1) ∧
    (c.closed → c.table = []) ∧
    ∀ id, .idReused id ∉ logged {} moves ∧ .nobodyWaiting id ∉ logged {} moves := by
  intro c keys
  obtain ⟨tidy, ids, logs⟩ : c.Tidy (identities moves) ∧ c.ids = accepted {} moves ∧
      ∀ x ∈ logged {} moves, x.isMishap = false :=
    tidy_run moves few
  have waiting_iff : ∀ t : Ticket, t.waiting ↔ t.held ∧ t.result = none := by
    intro t
    simp [Ticket.waiting]
  refine ⟨ids, fun id => ?_, tidy.nodup, fun k t ht => ⟨fun hm => ?_, fun held unsettled r => ?_⟩,
    tidy.next, fun id hm => ?_, tidy.closed, fun id => ⟨fun hx => ?_, fun hx => ?_⟩⟩
  · rw [tidy.mem_keys]
    constructor
    · rintro ⟨k, t, ht, hid, waits⟩
      exact ⟨t, Array.mem_of_getElem? ht, hid, (waiting_iff t).mp waits⟩
    · rintro ⟨t, ht, hid, waits⟩
      obtain ⟨k, ht⟩ := Array.getElem?_of_mem ht
      exact ⟨k, t, ht, hid, (waiting_iff t).mpr waits⟩
  · -- the ticket of the wait that ended is not held any more, and no other has its identity
    have tidy' := tidy.of_struck (struck_expire c k)
    obtain ⟨j, s, hs, hid, waits⟩ := tidy'.mem_keys.mp hm
    obtain ⟨s', hs', hid', free⟩ := held_expire ht
    cases tidy'.distinct j k s s' hs hs' (hid.trans hid'.symm)
    rw [hs] at hs'
    cases hs'
    simp [Ticket.waiting, free] at waits
  · rw [tidy.complete_eq_strike ht ((waiting_iff t).mpr ⟨held, unsettled⟩) r]
    exact ⟨rfl, by rw [tickets_strike, if_pos rfl, ht]; rfl⟩
  · obtain ⟨k, t, ht, rfl, -⟩ := tidy.mem_keys.mp hm
    have := tidy.identity k t ht
    omega
  · cases logs _ hx
  · cases logs _ hx

/-- Of two calls the first is given up: only the second is left in the table, under its own
    identity. -/
theorem table_keys_after_release :
    let moves : List Move := [.issue true "save" [] [], .issue true "save" [] [], .release 0]
    (run {} moves).table.map (·.1) = [⟨2⟩] ∧
    ∃ t ∈ (run {} moves).tickets, t.id = ⟨2⟩ ∧ t.held ∧ t.result = none := by
  intro moves
  obtain ⟨-, keys, -⟩ := table_keys_iff_waiting moves (by decide)
  exact ⟨rfl, (keys ⟨2⟩).mp (List.mem_singleton.mpr rfl)⟩

end Caller

end SessionHub
