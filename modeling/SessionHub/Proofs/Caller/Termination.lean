import SessionHub.Proofs.Caller.Arrivals
import SessionHub.Proofs.Caller.Fate

set_option autoImplicit false

/-! # Terminated callers

Termination settles all outstanding calls at once: each comes to be cancelled
(`Keyed.terminate_eq`). A caller that was terminated is over (`Over`). Whatever happens to it then,
it stays so, and the results that are there stay (`Over.move_cases`), because no entry is left that
would lead a reply or a failure to a ticket. -/

namespace SessionHub.Caller

/-! ## Cancelled calls -/

/-- Termination is to settle all outstanding calls as cancelled, and to take in no more. -/
theorem Keyed.terminate_eq {c : Caller} (h : c.Keyed) :
    c.terminate.1 =
      { c.settleAll (fun _ => some (.error .cancelled)) with closed := true } := by
  have settled : { c.table.foldl (fun c e => c.offer e.2 (.error .cancelled)) c with table := [] } =
      c.settleAll fun _ => some (.error .cancelled) := by
    refine eq_settleAll (by simp) (fun k => ?_) ?_
    · rw [tickets_settleAll, tickets_foldl_offer]
      cases ht : c.tickets[k]? with
      | none => simp
      | some t =>
        have listed : k ∈ c.table.map (·.2) ↔ (t.id, k) ∈ c.table := by
          constructor
          · intro listed
            obtain ⟨⟨id, j⟩, entry, rfl⟩ := List.mem_map.mp listed
            obtain ⟨s, hs, rfl, -⟩ := h.entry id j entry
            rw [ht] at hs
            exact Option.some.inj hs ▸ entry
          · intro entry
            exact List.mem_map.mpr ⟨_, entry, rfl⟩
        by_cases entry : (t.id, k) ∈ c.table
        · obtain ⟨s, hs, -, waits⟩ := h.entry t.id k entry
          rw [ht] at hs
          obtain rfl := Option.some.inj hs
          simp [listed, entry, Ticket.offered, waits]
        · simp [listed, entry]
    · rw [foldl_offer_eq]
  rw [← settled]
  rfl

/-! ## Afterwards -/

/-- Whether a caller was terminated and has no outstanding call. -/
structure Over (c : Caller) : Prop where
  closed : c.closed
  table : c.table = []

/-- Whether every ticket that is not waiting in `c` has the same result in `d`, and is held there
    only if it is in `c`. -/
def Keeps (c d : Caller) : Prop :=
  ∀ (k : Nat) (t : Ticket), c.tickets[k]? = some t → ¬ t.waiting →
    ∃ held, d.tickets[k]? = some { t with held } ∧ (held → t.held)

namespace Keeps

variable {b c d : Caller}

theorem of_same (same : d.tickets = c.tickets) : c.Keeps d :=
  fun _ t ht _ => ⟨t.held, same ▸ ht, id⟩

theorem trans (first : b.Keeps c) (second : c.Keeps d) : b.Keeps d := by
  intro k t ht past
  obtain ⟨held, hs, less⟩ := first k t ht past
  have past' : ¬ ({ t with held } : Ticket).waiting := by
    simp only [Ticket.waiting, Bool.and_eq_true, not_and] at past ⊢
    exact fun held' => past (less held')
  obtain ⟨held', hs', less'⟩ := second k _ hs past'
  exact ⟨held', hs', less ∘ less'⟩

/-- A ticket is struck off in a way that leaves the results of tickets that are not waiting. -/
theorem of_struck {k : Nat} (struck : c.Struck k d)
    (here : ∀ t, c.tickets[k]? = some t → ¬ t.waiting →
      ∃ held, d.tickets[k]? = some { t with held } ∧ (held → t.held)) : c.Keeps d := by
  intro j t ht past
  by_cases hkj : k = j
  · subst hkj
    exact here t ht past
  · exact ⟨t.held, (struck.tickets_of_ne hkj).trans ht, id⟩

theorem release (c : Caller) (k : Nat) : c.Keeps (c.release k) :=
  of_struck (struck_release c k) fun _ ht _ => ⟨false, tickets_release ht, nofun⟩

theorem collect (c : Caller) (k : Nat) : c.Keeps (c.collect k).1 := by
  unfold Caller.collect
  split
  · exact release c k
  · exact of_same rfl

theorem expire (c : Caller) (k : Nat) : c.Keeps (c.expire k).1 := by
  refine of_struck (struck_expire c k) fun t ht past => ?_
  have same : c.expire k = ((c.collect k).1, (c.collect k).2, []) := by
    refine expire_eq_collect fun s hs waits => ?_
    rw [ht] at hs
    exact past (Option.some.inj hs ▸ waits)
  rw [same]
  exact collect c k k t ht past

end Keeps

namespace Over

variable {c : Caller}

/-- A call whose result was returned is not pending any more. -/
theorem complete_eq (h : c.Over) (id : MessageId) (r : Reply) : c.complete id r = (c, false, []) := by
  simp [complete, h.table]

theorem of_struck (h : c.Over) {d : Caller} {k : Nat} (struck : c.Struck k d) : d.Over := by
  cases struck with
  | kept => exact h
  | off ht same past => exact ⟨h.closed, by simp [strike, h.table]⟩

/-- A move that is made on a caller which is over leaves it over. It adds no ticket, and it leaves
    the result at each ticket that is not waiting. -/
theorem move_cases (h : c.Over) (m : Move) :
    (c.move m).Over ∧ (c.move m).tickets.size = c.tickets.size ∧ c.Keeps (c.move m) := by
  have same : ∀ {d : Caller}, d.closed → d.table = [] → d.tickets = c.tickets →
      d.Over ∧ d.tickets.size = c.tickets.size ∧ c.Keeps d :=
    fun closed table tickets => ⟨⟨closed, table⟩, by rw [tickets], .of_same tickets⟩
  have told : m.tells → (c.move m).Over ∧ (c.move m).tickets.size = c.tickets.size ∧
      c.Keeps (c.move m) := by
    intro tells
    have kept : c.move m = c := by
      rcases move_of_tells tells with ⟨-, same⟩ | ⟨id, r, -, same⟩
      · exact same
      · rw [same, h.complete_eq]
    rw [kept]
    exact same h.closed h.table rfl
  have struck : ∀ {d : Caller} {k : Nat}, c.Struck k d → c.Keeps d →
      d.Over ∧ d.tickets.size = c.tickets.size ∧ c.Keeps d :=
    fun struck keeps => ⟨h.of_struck struck, struck.size_eq, keeps⟩
  cases m with
  | issue scheduled method args named =>
    cases scheduled with
    | false => exact same h.closed h.table rfl
    | true =>
      have refused : c.move (.issue true method args named) = { c with next := c.next + 1 } :=
        congrArg Prod.fst (issue_of_closed h.closed method args named)
      rw [refused]
      exact same h.closed h.table rfl
  | setOut =>
    simp only [move, act, takeSend?]
    cases c.sends.getLast? <;> exact same h.closed h.table rfl
  | sendEnded id result => exact told rfl
  | answer e => exact told rfl
  | receive bytes => exact told rfl
  | collect k => exact struck (struck_collect c k) (.collect c k)
  | expire k => exact struck (struck_expire c k) (.expire c k)
  | release k => exact struck (struck_release c k) (.release c k)
  | terminate => exact same rfl rfl (by simp [move, act, terminate, h.table])
  | retain => exact same h.closed h.table rfl
  | letGo =>
    simp only [move, act, letGo]
    split
    · exact same rfl rfl (by simp [terminate, h.table])
    · exact same h.closed h.table rfl

theorem run (h : c.Over) (moves : List Move) :
    (c.run moves).Over ∧ (c.run moves).tickets.size = c.tickets.size ∧ c.Keeps (c.run moves) := by
  refine Run.after_induction Caller.move (motive := fun _ d =>
    d.Over ∧ d.tickets.size = c.tickets.size ∧ c.Keeps d) c ⟨h, rfl, .of_same rfl⟩ ?_ moves
  intro moves m ⟨still, size, keeps⟩
  obtain ⟨still', size', keeps'⟩ := still.move_cases m
  exact ⟨still', size'.trans size, keeps.trans keeps'⟩

/-- No call is accepted by a caller that is over, and nothing that comes in completes one. -/
theorem refuses (h : c.Over) :
    (∀ method args named, (c.issue true method args named).2.1 = .error .terminated) ∧
    (∀ e, (c.answer e).2.1 = false) ∧ (∀ bytes, (c.receive bytes).2.1 = false) ∧
    c.terminate.2.1 = 0 := by
  have answered : ∀ e, (c.answer e).2.1 = false := by
    intro e
    cases he : e.reply? with
    | none => rw [answer_of_no_reply he]
    | some p => rw [answer_of_reply he, h.complete_eq]
  refine ⟨fun method args named => ?_, answered, fun bytes => ?_, ?_⟩
  · rw [issue_of_closed h.closed]
  · unfold receive
    split
    · exact answered _
    · rfl
  · simp [Caller.terminate, h.table]

end Over

theorem over_terminate (c : Caller) : c.terminate.1.Over := ⟨rfl, rfl⟩

/-- After every run, `terminate` returns the number of pending calls and gives the tickets of the
    table, and only these, the result `cancelled`. In every run from there no call is pending,
    `issue` fails with `terminated`, `answer` and `receive` complete no call, and `terminate`
    returns `0`. No ticket is added, and a ticket that is not waiting keeps its result. If fewer
    than `2 ^ 64` identities were taken before, no ticket is waiting after `terminate`. -/
theorem cancelled_for_good (moves more : List Move) :
    let c := run {} moves
    let terminated := c.terminate.1
    let later := terminated.run more
    c.terminate.2.1 = c.pending ∧
    (∀ (id : MessageId) (k : Nat), (id, k) ∈ c.table → ∃ t, c.tickets[k]? = some t ∧ t.id = id ∧
      t.held ∧ t.result = none ∧
      terminated.tickets[k]? = some { t with result := some (.error .cancelled) }) ∧
    (∀ (k : Nat) (t : Ticket), c.tickets[k]? = some t → (t.id, k) ∉ c.table →
      terminated.tickets[k]? = some t) ∧
    later.pending = 0 ∧
    (∀ method args named, (later.issue true method args named).2.1 = .error .terminated) ∧
    (∀ e, (later.answer e).2.1 = false) ∧
    (∀ bytes, (later.receive bytes).2.1 = false) ∧
    later.terminate.2.1 = 0 ∧
    later.tickets.size = c.tickets.size ∧
    (∀ (k : Nat) (t : Ticket), terminated.tickets[k]? = some t → ¬ t.waiting →
      ∃ held, later.tickets[k]? = some { t with held }) ∧
    (identities moves < UInt64.size →
      ∀ (k : Nat) (t : Ticket), terminated.tickets[k]? = some t → ¬ t.waiting) := by
  intro c terminated later
  have keyed : c.Keyed := keyed_run moves
  obtain ⟨still, size, keeps⟩ := (over_terminate c).run more
  obtain ⟨issued, answered, received, again⟩ := still.refuses
  have tickets : ∀ k : Nat, terminated.tickets[k]? = (c.tickets[k]?).map fun t =>
      if (t.id, k) ∈ c.table then { t with result := some (.error .cancelled) } else t := by
    intro k
    show c.terminate.1.tickets[k]? = _
    rw [keyed.terminate_eq]
    exact c.tickets_settleAll (fun _ => some (.error .cancelled)) k
  refine ⟨rfl, fun id k entry => ?_, fun k t ht absent => ?_, congrArg List.length still.table, issued,
    answered, received, again, ?_, fun k t ht past => ?_, fun few k t ht waits => ?_⟩
  · obtain ⟨t, ht, rfl, waits⟩ := keyed.entry id k entry
    have parts := Bool.and_eq_true_iff.mp waits
    refine ⟨t, ht, rfl, parts.1, Option.isNone_iff_eq_none.mp parts.2, ?_⟩
    rw [tickets, ht, Option.map_some, if_pos entry]
  · rw [tickets, ht, Option.map_some, if_neg absent]
  · rw [size]
    show c.terminate.1.tickets.size = _
    rw [keyed.terminate_eq]
    exact Array.size_mapIdx
  · obtain ⟨held, same, -⟩ := keeps k t ht past
    exact ⟨held, same⟩
  · -- identities are distinct as yet, so that every waiting ticket has an entry
    have tidy := (tidy_run moves few).1.terminate
    have entry := (tidy.entry t.id k).mpr ⟨t, ht, rfl, waits⟩
    cases entry

/-- Of two calls one was answered. The other is cancelled, and stays so when its send fails late and
    the wait for it is over. -/
theorem cancelled_for_good_of_two_calls :
    let c := run {} [.issue true "save" [] [], .issue true "load" [] [],
      .answer (.response (some ⟨1⟩) .null)]
    let later := c.terminate.1.run [.sendEnded ⟨2⟩ (.error .closed), .expire 1]
    c.terminate.2.1 = 1 ∧ later.pending = 0 ∧
    (∃ t, c.terminate.1.tickets[1]? = some t ∧ t.result = some (.error .cancelled)) ∧
    ∃ t, later.tickets[1]? = some t ∧ t.result = some (.error .cancelled) := by
  intro c later
  obtain ⟨count, cancels, -, none_left, -, -, -, -, -, keeps, settled⟩ :=
    cancelled_for_good [.issue true "save" [] [], .issue true "load" [] [],
      .answer (.response (some ⟨1⟩) .null)] [.sendEnded ⟨2⟩ (.error .closed), .expire 1]
  obtain ⟨t, -, -, -, -, cancelled⟩ := cancels ⟨2⟩ 1 (by decide)
  obtain ⟨held, kept⟩ := keeps 1 _ cancelled (settled (by decide) 1 _ cancelled)
  exact ⟨count.trans (by decide), none_left, ⟨_, cancelled, rfl⟩, ⟨_, kept, rfl⟩⟩

end SessionHub.Caller
