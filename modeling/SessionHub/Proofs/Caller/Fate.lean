import SessionHub.Proofs.Caller.Table
import SessionHub.Proofs.Json.Text

set_option autoImplicit false

/-! # What becomes of a call

A pending call is met by its fate in the first move that concerns it: its reply, the failure of its
send, the end of the time to wait, the end of the caller, or that its ticket is given up. The result
on a ticket is the one that the first fate brings, and it is taken at most once
(`result_eq_first_fate`). All later fates, and all moves that concern other calls, find no entry
that leads to the ticket. -/

namespace SessionHub

/-- What can become of a call. -/
inductive Fate where
  /-- It comes to a result. -/
  | settled (r : Reply)
  /-- Its ticket is given up. -/
  | givenUp

/-- The result that a fate brings. -/
def Fate.reply? : Fate → Option Reply
  | settled r => some r
  | givenUp => none

namespace Caller

/-- The fate that a move has for the call `id` with ticket `k`. -/
def Move.fate? (id : MessageId) (k : Nat) (c : Caller) : Move → Option Fate
  | .expire j => if j = k then some (.settled (.error .timeout)) else none
  | .release j => if j = k then some .givenUp else none
  | .terminate => some (.settled (.error .cancelled))
  | .letGo => if c.holders ≤ 1 then some (.settled (.error .cancelled)) else none
  | m => m.completion?.bind fun p => if p.1 = id then some (.settled p.2) else none

/-- The fates that a run has for the call `id` with ticket `k`, in order. -/
def fates (id : MessageId) (k : Nat) (c : Caller) (moves : List Move) : List Fate :=
  Run.seen move (fun c m => (m.fate? id k c).toList) c moves

/-- The result that a move tells to the holder of ticket `k`. -/
def Move.told? (k : Nat) (c : Caller) : Move → Option Reply
  | .collect j => if j = k then (c.collect k).2 else none
  | .expire j => if j = k then (c.expire k).2.1 else none
  | _ => none

/-- The results that a run tells to the holder of ticket `k`. -/
def told (k : Nat) (c : Caller) (moves : List Move) : List Reply :=
  Run.seen move (fun c m => (m.told? k c).toList) c moves

/-- Whether a move is made by the holder of ticket `k`. -/
def Move.isAt (k : Nat) : Move → Bool
  | .collect j | .expire j | .release j => j = k
  | _ => false

/-! ## What moves do to one ticket -/

theorem result?_eq_some {c : Caller} {j : Nat} {r : Reply} :
    c.result? j = some r ↔ ∃ t, c.tickets[j]? = some t ∧ t.held ∧ t.result = some r := by
  simp only [result?, Option.bind_eq_some_iff, Option.ite_none_right_eq_some]

namespace Tidy

variable {c : Caller} {used : Nat}

/-- A completion writes on the ticket of that identity, if it is waiting. -/
theorem tickets_complete (h : c.Tidy used) (id : MessageId) (r : Reply) (k : Nat) :
    (c.complete id r).1.tickets[k]? =
      (c.tickets[k]?).map fun t => if t.id = id then t.offered r else t := by
  rcases h.complete_cases id r with ⟨j, t, ht, rfl, waits, same⟩ | ⟨idle, same⟩
  · rw [same, tickets_strike]
    by_cases hjk : j = k
    · subst hjk
      simp [ht, Ticket.offered, waits]
    · rw [if_neg hjk]
      cases hs : c.tickets[k]? with
      | none => rfl
      | some s =>
        have other : s.id ≠ t.id := fun same => hjk (h.distinct j k t s ht hs same.symm)
        simp [other]
  · rw [same]
    cases hs : c.tickets[k]? with
    | none => rfl
    | some s =>
      by_cases same : s.id = id
      · have past : s.waiting = false := by
          rw [← Bool.not_eq_true]
          exact idle k s hs same
        simp [same, Ticket.offered, past]
      · simp [same]

theorem tickets_terminate (h : c.Tidy used) (k : Nat) :
    c.terminate.1.tickets[k]? = (c.tickets[k]?).map (Ticket.offered (.error .cancelled)) := by
  rw [h.terminate_eq, Array.getElem?_map]

theorem tickets_letGo (h : c.Tidy used) (k : Nat) :
    c.letGo.1.tickets[k]? = if c.holders ≤ 1
      then (c.tickets[k]?).map (Ticket.offered (.error .cancelled)) else c.tickets[k]? := by
  have last : c.holders - 1 = 0 ↔ c.holders ≤ 1 := by omega
  have less := h.withOthers c.sends (c.holders - 1)
  simp only [letGo, last]
  split
  · exact less.tickets_terminate k
  · rfl

/-- A call that is issued leaves the tickets as they are. -/
theorem tickets_issue (h : c.Tidy used) (few : used + 1 < UInt64.size) {k : Nat} {t : Ticket}
    (ht : c.tickets[k]? = some t) (method : String) (args : List Json)
    (named : List (String × Json)) :
    (c.issue true method args named).1.tickets[k]? = some t := by
  by_cases closed : c.closed
  · rw [issue_of_closed closed]
    exact ht
  · by_cases full : limit ≤ c.pending
    · rw [issue_of_full closed full]
      exact ht
    · rw [h.issue_eq_taken few closed (Nat.not_le.mp full)]
      exact tickets_push.mpr (.inl ht)

/-- A move that its holder does not make leaves a ticket as it is, or offers it the result that its
    fate brings. -/
theorem move_elsewhere (h : c.Tidy used) {k : Nat} {t : Ticket} (ht : c.tickets[k]? = some t)
    {m : Move} (elsewhere : m.isAt k = false)
    (few : used + (if m.takesIdentity then 1 else 0) < UInt64.size) :
    m.told? k c = none ∧ (m.fate? t.id k c = none ∧ (c.move m).tickets[k]? = some t ∨
      ∃ r, m.fate? t.id k c = some (.settled r) ∧
        (c.move m).tickets[k]? = some (t.offered r)) := by
  have completed : ∀ m : Move, m.tells →
      (m.completion?.bind fun p => if p.1 = t.id then some (Fate.settled p.2) else none) = none ∧
          (c.move m).tickets[k]? = some t ∨
        ∃ r, (m.completion?.bind fun p =>
            if p.1 = t.id then some (Fate.settled p.2) else none) = some (.settled r) ∧
          (c.move m).tickets[k]? = some (t.offered r) := by
    intro m tells
    rcases move_of_tells tells with ⟨hm, kept⟩ | ⟨id, r, hm, completed⟩
    · rw [hm, kept]
      exact .inl ⟨rfl, ht⟩
    · rw [hm, completed, h.tickets_complete, ht]
      by_cases same : id = t.id
      · exact .inr ⟨r, by simp [same], by simp [same]⟩
      · exact .inl ⟨by simp [same], by simp [Ne.symm same]⟩
  cases m with
  | issue scheduled method args named =>
    cases scheduled with
    | false => exact ⟨rfl, .inl ⟨rfl, ht⟩⟩
    | true => exact ⟨rfl, .inl ⟨rfl, h.tickets_issue few ht method args named⟩⟩
  | setOut =>
    refine ⟨rfl, .inl ⟨rfl, ?_⟩⟩
    simp only [move, Caller.act, takeSend?]
    cases c.sends.getLast? <;> exact ht
  | sendEnded id result => exact ⟨rfl, completed _ rfl⟩
  | answer e => exact ⟨rfl, completed _ rfl⟩
  | receive bytes => exact ⟨rfl, completed _ rfl⟩
  | collect j =>
    have hjk : j ≠ k := of_decide_eq_false elsewhere
    exact ⟨if_neg hjk, .inl ⟨rfl, ((struck_collect c j).tickets_of_ne hjk).trans ht⟩⟩
  | expire j =>
    have hjk : j ≠ k := of_decide_eq_false elsewhere
    exact ⟨if_neg hjk, .inl ⟨if_neg hjk, ((struck_expire c j).tickets_of_ne hjk).trans ht⟩⟩
  | release j =>
    have hjk : j ≠ k := of_decide_eq_false elsewhere
    exact ⟨rfl, .inl ⟨if_neg hjk, ((struck_release c j).tickets_of_ne hjk).trans ht⟩⟩
  | terminate => exact ⟨rfl, .inr ⟨_, rfl, by simp [move, Caller.act, h.tickets_terminate, ht]⟩⟩
  | retain => exact ⟨rfl, .inl ⟨rfl, ht⟩⟩
  | letGo =>
    have left := h.tickets_letGo k
    by_cases last : c.holders ≤ 1
    · rw [if_pos last, ht] at left
      exact ⟨rfl, .inr ⟨_, if_pos last, left⟩⟩
    · rw [if_neg last, ht] at left
      exact ⟨rfl, .inl ⟨if_neg last, left⟩⟩

/-- A ticket that is waiting keeps its fate, and no other result is taken from it. -/
theorem move_of_waiting (h : c.Tidy used) {k : Nat} {t : Ticket}
    (ht : c.tickets[k]? = some t) (waits : t.waiting) (m : Move)
    (few : used + (if m.takesIdentity then 1 else 0) < UInt64.size) :
    match m.fate? t.id k c with
    | none => (c.move m).tickets[k]? = some t ∧ m.told? k c = none
    | some .givenUp =>
      (c.move m).tickets[k]? = some { t with held := false } ∧ m.told? k c = none
    | some (.settled r) =>
      ∃ held, (c.move m).tickets[k]? = some { t with result := some r, held } ∧
        (m.told? k c = none ∨ held = false ∧ m.told? k c = some r) := by
  by_cases elsewhere : m.isAt k = false
  · obtain ⟨silent, ⟨fate, hs⟩ | ⟨r, fate, hs⟩⟩ := h.move_elsewhere ht elsewhere few
    · rw [fate]
      exact ⟨hs, silent⟩
    · rw [fate]
      rw [Ticket.offered, if_pos waits] at hs
      exact ⟨t.held, hs, .inl silent⟩
  · have unsettled : t.result = none := by
      simp only [Ticket.waiting, Bool.and_eq_true, Option.isNone_iff_eq_none] at waits
      exact waits.2
    cases m with
    | collect j =>
      obtain rfl : j = k := by simpa [Move.isAt] using elsewhere
      have nothing : ∀ s, c.tickets[j]? = some s → s.held → s.result = none := by
        intro s hs _
        rw [ht] at hs
        cases hs
        exact unsettled
      simp only [Move.fate?, Move.completion?, Option.bind_none, Move.told?, if_true, move,
        Caller.act, collect_eq_self nothing]
      exact ⟨ht, trivial⟩
    | expire j =>
      obtain rfl : j = k := by simpa [Move.isAt] using elsewhere
      simp only [Move.fate?, Move.told?, if_true, move, Caller.act, expire_eq_strike ht waits,
        tickets_strike, ht, Option.map_some]
      exact ⟨false, rfl, .inr (by simp)⟩
    | release j =>
      obtain rfl : j = k := by simpa [Move.isAt] using elsewhere
      simp only [Move.fate?, if_true]
      exact ⟨tickets_release ht, rfl⟩
    | _ => exact absurd rfl elsewhere

/-- To collect at a ticket is to be told its result and to give the ticket up, or to do nothing. -/
theorem collect_cases {k : Nat} {t : Ticket} (ht : c.tickets[k]? = some t) (past : ¬ t.waiting) :
    ∃ held, (c.collect k).1.tickets[k]? = some { t with held } ∧
      ((c.collect k).2 = none ∧ (held → t.held) ∨
        t.held ∧ held = false ∧ (c.collect k).2 = t.result) := by
  by_cases held : t.held
  · obtain ⟨r, hr⟩ : ∃ r, t.result = some r := by
      rw [← Option.ne_none_iff_exists']
      simpa [Ticket.waiting, held] using past
    rw [collect_eq ht held hr]
    exact ⟨false, tickets_release ht, .inr ⟨held, rfl, hr.symm⟩⟩
  · have nothing : ∀ s, c.tickets[k]? = some s → s.held → s.result = none := by
      intro s hs held'
      rw [ht] at hs
      cases hs
      exact absurd held' held
    rw [collect_eq_self nothing]
    exact ⟨t.held, ht, .inl ⟨rfl, id⟩⟩

/-- The result of a ticket that is not waiting stays as it is. It may still be taken, and the ticket
    is then not held any more. -/
theorem move_of_not_waiting (h : c.Tidy used) {k : Nat} {t : Ticket}
    (ht : c.tickets[k]? = some t) (past : ¬ t.waiting) (m : Move)
    (few : used + (if m.takesIdentity then 1 else 0) < UInt64.size) :
    ∃ held, (c.move m).tickets[k]? = some { t with held } ∧
      ((m.told? k c = none ∧ (held → t.held))
        ∨ t.held ∧ held = false ∧ m.told? k c = t.result) := by
  by_cases elsewhere : m.isAt k = false
  · obtain ⟨silent, ⟨-, hs⟩ | ⟨r, -, hs⟩⟩ := h.move_elsewhere ht elsewhere few
    · exact ⟨t.held, hs, .inl ⟨silent, id⟩⟩
    · rw [Ticket.offered, if_neg past] at hs
      exact ⟨t.held, hs, .inl ⟨silent, id⟩⟩
  · cases m with
    | collect j =>
      obtain rfl : j = k := by simpa [Move.isAt] using elsewhere
      simp only [Move.told?, if_true]
      exact collect_cases ht past
    | expire j =>
      obtain rfl : j = k := by simpa [Move.isAt] using elsewhere
      have same : c.expire j = ((c.collect j).1, (c.collect j).2, []) :=
        expire_eq_collect fun s hs waits => by
          rw [ht] at hs
          cases hs
          exact past waits
      simpa only [Move.told?, if_true, move, Caller.act, same] using collect_cases ht past
    | release j =>
      obtain rfl : j = k := by simpa [Move.isAt] using elsewhere
      exact ⟨false, tickets_release ht, .inl ⟨rfl, by rintro ⟨⟩⟩⟩
    | _ => exact absurd rfl elsewhere

/-- Whether a ticket is waiting after a move that met it with no fate, or that has only just issued
    it. -/
theorem waited_before (h : c.Tidy used) {m : Move}
    (few : used + (if m.takesIdentity then 1 else 0) < UInt64.size) {j : Nat} {t : Ticket}
    (ht : (c.move m).tickets[j]? = some t) (waits : t.waiting) (old : j < c.tickets.size) :
    c.tickets[j]? = some t ∧ m.fate? t.id j c = none := by
  obtain ⟨s, hs⟩ : ∃ s, c.tickets[j]? = some s := ⟨_, Array.getElem?_eq_getElem old⟩
  by_cases waited : s.waiting
  · have new := h.move_of_waiting hs waited m few
    cases hm : m.fate? s.id j c with
    | none =>
      obtain ⟨same, -⟩ := hm ▸ new
      rw [ht] at same
      cases same
      exact ⟨hs, hm⟩
    | some fate =>
      cases fate with
      | givenUp =>
        obtain ⟨same, -⟩ := hm ▸ new
        rw [ht] at same
        cases same
        simp [Ticket.waiting] at waits
      | settled r =>
        obtain ⟨held, same, -⟩ := hm ▸ new
        rw [ht] at same
        cases same
        simp [Ticket.waiting] at waits
  · -- its result stays, or it was not held before either
    obtain ⟨held, same, hold⟩ := h.move_of_not_waiting hs waited m few
    rw [ht] at same
    cases same
    simp only [Ticket.waiting, Bool.and_eq_true, Option.isNone_iff_eq_none] at waits waited
    rcases hold with ⟨-, hold⟩ | ⟨-, free, -⟩
    · exact absurd ⟨hold waits.1, waits.2⟩ waited
    · rw [waits.1] at free
      cases free

/-- A result stays on its ticket until it is taken. -/
theorem result?_elsewhere (h : c.Tidy used) {j : Nat} {r : Reply} (told : c.result? j = some r)
    {a : Move} (elsewhere : a.isAt j = false)
    (few : used + (if a.takesIdentity then 1 else 0) < UInt64.size) :
    (c.move a).result? j = some r := by
  obtain ⟨t, ht, held, hr⟩ := result?_eq_some.mp told
  have past : ¬ t.waiting := by simp [Ticket.waiting, hr]
  refine result?_eq_some.mpr ⟨t, ?_, held, hr⟩
  obtain ⟨-, ⟨-, same⟩ | ⟨r', -, same⟩⟩ := h.move_elsewhere ht elsewhere few
  · exact same
  · rwa [Ticket.offered, if_neg past] at same

/-- Dropping the last holder of a caller cancels all pending calls. -/
theorem result?_letGo (h : c.Tidy used) (last : c.holders = 1) {j : Nat} (waits : c.isWaiting j) :
    (c.move .letGo).result? j = some (.error .cancelled) := by
  cases ht : c.tickets[j]? with
  | none =>
    rw [isWaiting, ht] at waits
    cases waits
  | some t =>
    have waits : t.waiting := (isWaiting_iff ht).symm.trans waits
    have left := h.tickets_letGo j
    rw [if_pos (Nat.le_of_eq last), ht, Option.map_some, Ticket.offered, if_pos waits] at left
    exact result?_eq_some.mpr ⟨_, left, (Bool.and_eq_true_iff.mp waits).1, rfl⟩

end Tidy

/-! ## Runs -/

/-- How a ticket stands to the fates of its call and to what its holder was told. -/
def Fits (t : Ticket) (fates : List Fate) (told : List Reply) : Prop :=
  match fates.head? with
  | none => t.waiting ∧ told = []
  | some (.settled r) => t.result = some r ∧ (told = [] ∨ t.held = false ∧ told = [r])
  | some .givenUp => t.result = none ∧ t.held = false ∧ told = []

/-- A ticket goes on to fit the fates of its call. -/
theorem Fits.move {c : Caller} {used : Nat} (h : c.Tidy used) {k : Nat} {t : Ticket}
    (ht : c.tickets[k]? = some t) {fates : List Fate} {told : List Reply}
    (fits : Fits t fates told) (m : Move)
    (few : used + (if m.takesIdentity then 1 else 0) < UInt64.size) :
    ∃ s, (c.move m).tickets[k]? = some s ∧ s.id = t.id ∧
      Fits s (fates ++ (m.fate? t.id k c).toList) (told ++ (m.told? k c).toList) := by
  cases fates with
  | nil =>
    -- no fate has met the call yet: if this move has one, it is the first
    obtain ⟨waits, rfl⟩ := fits
    have new := h.move_of_waiting ht waits m few
    cases hm : m.fate? t.id k c with
    | none =>
      obtain ⟨hs, silent⟩ := hm ▸ new
      exact ⟨t, hs, rfl, waits, by simp [silent]⟩
    | some fate =>
      cases fate with
      | givenUp =>
        obtain ⟨hs, silent⟩ := hm ▸ new
        simp only [Ticket.waiting, Bool.and_eq_true, Option.isNone_iff_eq_none] at waits
        exact ⟨_, hs, rfl, waits.2, rfl, by simp [silent]⟩
      | settled r =>
        obtain ⟨held, hs, told⟩ := hm ▸ new
        refine ⟨_, hs, rfl, rfl, ?_⟩
        rcases told with silent | ⟨free, told⟩
        · exact .inl (by simp [silent])
        · exact .inr ⟨free, by simp [told]⟩
  | cons fate fates =>
    -- the first fate has ended the wait, and the result can still be taken
    have past : ¬ t.waiting := by
      cases fate with
      | givenUp => simp [Ticket.waiting, show t.held = false from fits.2.1]
      | settled r => simp [Ticket.waiting, show t.result = some r from fits.1]
    obtain ⟨held, hs, told⟩ := h.move_of_not_waiting ht past m few
    refine ⟨_, hs, rfl, ?_⟩
    cases fate with
    | givenUp =>
      obtain ⟨unsettled, free, rfl⟩ := fits
      rcases told with ⟨silent, less⟩ | ⟨held', -⟩
      · refine ⟨unsettled, ?_, by simp [silent]⟩
        rw [← Bool.not_eq_true]
        intro held'
        rw [less held'] at free
        cases free
      · rw [free] at held'
        cases held'
    | settled r =>
      obtain ⟨settled, before⟩ := fits
      refine ⟨settled, ?_⟩
      rcases told with ⟨silent, less⟩ | ⟨held', free, told⟩
      · rw [silent, Option.toList_none, List.append_nil]
        refine before.imp_right fun said => ⟨?_, said.2⟩
        have free := said.1
        rw [← Bool.not_eq_true]
        intro held'
        rw [less held'] at free
        cases free
      · rw [told, settled]
        rcases before with rfl | ⟨free', -⟩
        · exact .inr ⟨free, rfl⟩
        · rw [held'] at free'
          cases free'

end Caller

end SessionHub
