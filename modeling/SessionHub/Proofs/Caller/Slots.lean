import Mathlib.Data.List.Nodup
import SessionHub.Proofs.Caller.Keys

set_option autoImplicit false

/-! # Room for calls

A caller has room for a limited number of outstanding calls. A call is accepted just if there is
something that would run its send, the caller was not terminated, and there is room
(`accepted_iff_room`). The table never outgrows the limit, because only a call that is accepted puts
an entry into it (`pending_move_le`), and whatever ends the wait for a call makes room for another
one (`pending_move_of_frees`). -/

namespace SessionHub.Caller

/-- The identities that a run uses up, in order, those of calls that are refused among them. -/
def spent (c : Caller) (moves : List Move) : List MessageId :=
  Run.seen move (fun c m => if m.takesIdentity then [⟨c.next⟩] else []) c moves

/-- Whether a move takes the call `id` with ticket `k` out of the table, if it is there: it tells
    how the call went, or the wait at the ticket is over, or the ticket is given up. -/
def Move.frees (id : MessageId) (k : Nat) : Move → Bool
  | .expire j | .release j => j = k
  | m => m.completion?.any (·.1 = id)

/-! ## Identities -/

theorem mem_spent_of_accepted {c : Caller} {moves : List Move} {id : MessageId}
    (there : id ∈ accepted c moves) : id ∈ spent c moves := by
  induction moves generalizing c with
  | nil => cases there
  | cons m moves ih =>
    rw [accepted, Run.seen_cons, List.mem_append] at there
    rw [spent, Run.seen_cons, List.mem_append]
    refine there.imp (fun now => ?_) ih
    cases m with
    | issue scheduled method args named =>
      cases scheduled with
      | false => cases now
      | true =>
        simp only [Move.accepted?] at now
        split at now
        · exact now
        · cases now
    | _ => cases now

/-- Identities are used up in ascending order, from one on. -/
theorem le_identities_of_spent (moves : List Move) (few : identities moves < UInt64.size) :
    ∀ id ∈ spent {} moves, id.val.toNat ≤ identities moves := by
  refine Run.after_induction move (motive := fun moves _ => identities moves < UInt64.size →
    ∀ id ∈ spent {} moves, id.val.toNat ≤ identities moves) {} ?_ ?_ moves few
  · intro _ id there
    cases there
  · intro moves m ih few id there
    rw [identities_concat] at few ⊢
    rw [spent, Run.seen_concat, List.mem_append] at there
    rcases there with before | now
    · exact Nat.le_add_right_of_le (ih (by omega) id before)
    · split at now
      · next takes =>
        rw [if_pos takes] at few ⊢
        obtain rfl := List.mem_singleton.mp now
        exact Nat.le_of_eq ((tidy_run moves (by omega)).1.next_toNat few)
      · cases now

/-! ## Calls -/

/-- A caller that was not terminated and has room accepts a call. -/
theorem issue_of_room {c : Caller} (live : ¬ c.closed) (room : c.pending < limit) (method : String)
    (args : List Json) (named : List (String × Json)) :
    (c.issue true method args named).2.1 = .ok c.tickets.size := by
  let used : Caller := { c with next := c.next + 1 }
  have live : ¬ used.closed := live
  have room : ¬ limit ≤ used.pending := Nat.not_le.mpr room
  simp only [issue, Bool.not_true, Bool.false_eq_true, if_false]
  rw [if_neg live, if_neg room]

/-- Which calls are accepted. -/
theorem issue_eq_ok_iff (c : Caller) (scheduled : Bool) (method : String) (args : List Json)
    (named : List (String × Json)) :
    (∃ k, (c.issue scheduled method args named).2.1 = .ok k) ↔
      scheduled ∧ ¬ c.closed ∧ c.pending < limit := by
  cases scheduled with
  | false => simp [issue]
  | true =>
    by_cases closed : c.closed
    · simp [issue_of_closed closed, closed]
    · by_cases full : limit ≤ c.pending
      · simp [issue_of_full closed full, Nat.not_lt.mpr full]
      · have room := Nat.not_le.mp full
        simp [issue_of_room closed room, closed, room]

/-- Why a call is refused, and that it leaves nothing but the counter of identities changed. -/
theorem issue_refused {c : Caller} {scheduled : Bool} {method : String} {args : List Json}
    {named : List (String × Json)} {e : CallError}
    (refused : (c.issue scheduled method args named).2.1 = .error e) :
    e = (if ¬ scheduled then .noScheduler else if c.closed then .terminated else .atCapacity) ∧
      (c.issue scheduled method args named).1 =
        if scheduled then { c with next := c.next + 1 } else c := by
  cases scheduled with
  | false =>
    cases refused
    exact ⟨rfl, rfl⟩
  | true =>
    by_cases closed : c.closed
    · rw [issue_of_closed closed] at refused ⊢
      cases refused
      exact ⟨by simp [closed], rfl⟩
    · by_cases full : limit ≤ c.pending
      · rw [issue_of_full closed full] at refused ⊢
        cases refused
        exact ⟨by simp [closed], rfl⟩
      · rw [issue_of_room closed (Nat.not_le.mp full)] at refused
        cases refused

/-! ## Entries -/

/-- An entry that is struck off leaves one entry less. -/
theorem pending_strike {c : Caller} (nodup : (c.table.map (·.1)).Nodup) {id : MessageId} {k : Nat}
    (entry : (id, k) ∈ c.table) (j : Nat) (f : Ticket → Ticket) :
    (c.strike id j f).pending + 1 = c.pending := by
  have one : c.table.countP (·.1 = id) = 1 := by
    have once := List.count_eq_one_of_mem nodup (List.mem_map.mpr ⟨_, entry, rfl⟩)
    rw [List.count, List.countP_map] at once
    rw [← once]
    exact List.countP_congr fun e _ => by simp
  have parts := c.table.length_eq_countP_add_countP (·.1 = id)
  rw [one, Nat.add_comm] at parts
  rw [pending, pending, parts, strike, ← List.countP_eq_length_filter]
  congr 1
  exact List.countP_congr fun e _ => by simp

theorem pending_strike_le (c : Caller) (id : MessageId) (k : Nat) (f : Ticket → Ticket) :
    (c.strike id k f).pending ≤ c.pending :=
  List.length_filter_le ..

theorem Struck.pending_le {c d : Caller} {k : Nat} (struck : c.Struck k d) :
    d.pending ≤ c.pending := by
  cases struck with
  | kept => exact Nat.le_refl _
  | off ht same past => exact pending_strike_le ..

namespace Tidy

variable {c : Caller} {used : Nat}

/-- A call that is accepted is taken in with the ticket that is next. -/
theorem issue_of_ok (h : c.Tidy used) (few : used + 1 < UInt64.size) {method : String}
    {args : List Json}
    {named : List (String × Json)} {k : Nat}
    (accepted : (c.issue true method args named).2.1 = .ok k) :
    k = c.tickets.size ∧ c.issue true method args named =
      (c.taken method args named, .ok c.tickets.size, [.callIssued ⟨c.next⟩ method]) := by
  obtain ⟨-, live, room⟩ := (c.issue_eq_ok_iff true method args named).mp ⟨k, accepted⟩
  have taken := h.issue_eq_taken few live room method args named
  rw [taken] at accepted
  exact ⟨(Except.ok.inj accepted).symm, taken⟩

/-- Each move leaves the table within the limit. -/
theorem pending_move_le (h : c.Tidy used) (m : Move)
    (few : used + (if m.takesIdentity then 1 else 0) < UInt64.size) (within : c.pending ≤ limit) :
    (c.move m).pending ≤ limit := by
  have told : m.tells → (c.move m).pending ≤ limit := by
    intro tells
    rcases move_of_tells tells with ⟨-, same⟩ | ⟨id, r, -, same⟩ <;> rw [same]
    · exact within
    · obtain ⟨k, struck⟩ := h.struck_complete id r
      exact Nat.le_trans struck.pending_le within
  cases m with
  | issue scheduled method args named =>
    cases scheduled with
    | false => exact within
    | true =>
      simp only [move, Caller.act]
      by_cases closed : c.closed
      · rw [issue_of_closed closed]
        exact within
      · by_cases full : limit ≤ c.pending
        · rw [issue_of_full closed full]
          exact within
        · have room := Nat.not_le.mp full
          rw [h.issue_eq_taken few closed room]
          exact room
  | setOut =>
    simp only [move, Caller.act, takeSend?]
    cases c.sends.getLast? <;> exact within
  | sendEnded id result => exact told rfl
  | answer e => exact told rfl
  | receive bytes => exact told rfl
  | collect k => exact Nat.le_trans (struck_collect c k).pending_le within
  | expire k => exact Nat.le_trans (struck_expire c k).pending_le within
  | release k => exact Nat.le_trans (struck_release c k).pending_le within
  | terminate => exact Nat.zero_le _
  | retain => exact within
  | letGo =>
    simp only [move, Caller.act, letGo]
    split
    · exact Nat.zero_le _
    · exact within

/-- A call that is taken out of the table makes room. -/
theorem pending_move_of_frees (h : c.Tidy used) {id : MessageId} {k : Nat}
    (entry : (id, k) ∈ c.table) {m : Move} (frees : m.frees id k) :
    (c.move m).closed = c.closed ∧ (c.move m).pending + 1 = c.pending := by
  obtain ⟨t, ht, rfl, waits⟩ := (h.entry id k).mp entry
  have held : t.held := (Bool.and_eq_true_iff.mp waits).1
  have struck : ∀ f, c.move m = c.strike t.id k f →
      (c.move m).closed = c.closed ∧ (c.move m).pending + 1 = c.pending := by
    intro f same
    rw [same]
    exact ⟨rfl, pending_strike h.nodup entry k f⟩
  have completed : m.completion?.any (·.1 = t.id) →
      (c.move m).closed = c.closed ∧ (c.move m).pending + 1 = c.pending := by
    intro completes
    rw [Option.any_eq_true] at completes
    obtain ⟨⟨id, r⟩, hm, same⟩ := completes
    obtain rfl : id = t.id := by simpa using same
    refine struck (fun t => { t with result := some r }) ?_
    rw [move, (act_of_completion hm).1, h.complete_eq_strike ht waits]
  cases m with
  | expire j =>
    obtain rfl : j = k := by simpa [Move.frees] using frees
    exact struck _ (congrArg Prod.fst (expire_eq_strike ht waits))
  | release j =>
    obtain rfl : j = k := by simpa [Move.frees] using frees
    exact struck _ (release_eq_strike ht held)
  | _ => exact completed frees

end Tidy

theorem pending_run_le (moves : List Move) (few : identities moves < UInt64.size) :
    (run {} moves).pending ≤ limit := by
  refine Run.after_induction move (motive := fun moves c => identities moves < UInt64.size →
    c.pending ≤ limit) {} ?_ ?_ moves few
  · intro _
    exact Nat.zero_le _
  · intro moves m ih few
    rw [identities_concat] at few
    exact (tidy_run moves (by omega)).1.pending_move_le m few (ih (by omega))

/-- After every run of fewer than `2 ^ 64` identities, `issue` succeeds exactly if there is a
    runtime for its send (`scheduled`), the caller is not closed, and `pending < limit`. Otherwise
    it fails with the first of `noScheduler`, `terminated` and `atCapacity` that applies, and
    changes at most `next`. A call that is accepted adds one entry and one ticket, under an identity
    above all that were taken before (`spent`). `pending` never exceeds `limit`, and each move that
    takes an entry out (`frees`) makes room for a call. -/
theorem accepted_iff_room (before : List Move) (scheduled : Bool) (method : String) (args : List Json)
    (named : List (String × Json))
    (few : identities (before ++ [.issue scheduled method args named]) < UInt64.size) :
    let c := run {} before
    let issued := c.issue scheduled method args named
    ((∃ k, issued.2.1 = .ok k) ↔ scheduled ∧ ¬ c.closed ∧ c.pending < limit) ∧
    (∀ e, issued.2.1 = .error e →
      e = (if ¬ scheduled then .noScheduler else if c.closed then .terminated else .atCapacity) ∧
      issued.1 = if scheduled then { c with next := c.next + 1 } else c) ∧
    (∀ k, issued.2.1 = .ok k → k = c.tickets.size ∧
      issued.1.table = (⟨c.next⟩, k) :: c.table ∧
      issued.1.tickets = c.tickets.push { id := ⟨c.next⟩ } ∧
      accepted {} before ⊆ spent {} before ∧ ∀ id ∈ spent {} before, id.val < c.next) ∧
    c.pending ≤ limit ∧
    ∀ (id : MessageId) (k : Nat) (m : Move), (id, k) ∈ c.table → m.frees id k →
      (c.move m).pending + 1 = c.pending ∧
      ∃ j, ((c.move m).issue true method args named).2.1 = .ok j := by
  intro c issued
  rw [identities_concat] at few
  have tidy : c.Tidy (identities before) := (tidy_run before (by omega)).1
  have within : c.pending ≤ limit := pending_run_le before (by omega)
  refine ⟨c.issue_eq_ok_iff scheduled method args named, fun e refused => issue_refused refused,
    fun k accepted => ?_, within, fun id k m entry frees => ?_⟩
  · obtain ⟨rfl, -, -⟩ := (c.issue_eq_ok_iff scheduled method args named).mp ⟨k, accepted⟩
    obtain ⟨rfl, taken⟩ := tidy.issue_of_ok few accepted
    refine ⟨rfl, by simp only [issued, taken, Caller.taken], by simp only [issued, taken, Caller.taken],
      fun id => mem_spent_of_accepted, fun id used => UInt64.lt_iff_toNat_lt.mpr ?_⟩
    rw [tidy.next_toNat few]
    exact Nat.lt_succ_of_le (le_identities_of_spent before (by omega) id used)
  · obtain ⟨open_still, less⟩ := tidy.pending_move_of_frees entry frees
    have live : ¬ (c.move m).closed := by
      intro closed
      rw [tidy.closed (open_still ▸ closed)] at entry
      cases entry
    exact ⟨less, _, issue_of_room live (by omega) method args named⟩

/-- The second of two calls is accepted and takes the second place, which a reply to it frees. -/
theorem accepted_second_call :
    let c := run {} [.issue true "save" [] []]
    let reply : Move := .answer (.response (some ⟨1⟩) .null)
    (∃ k, (c.issue true "load" [] []).2.1 = .ok k) ∧ c.pending ≤ limit ∧
    ∃ j, ((c.move reply).issue true "load" [] []).2.1 = .ok j := by
  intro c reply
  obtain ⟨accepts, -, -, within, frees⟩ :=
    accepted_iff_room [.issue true "save" [] []] true "load" [] [] (by decide)
  exact ⟨accepts.mpr (by decide), within, (frees ⟨1⟩ 0 reply (by decide) rfl).2⟩

end SessionHub.Caller
