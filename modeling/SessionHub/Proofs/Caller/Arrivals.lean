import SessionHub.Proofs.Caller.Slots

set_option autoImplicit false

/-! # The order in which replies come in

Envelopes that come in one after the other settle, for each outstanding call, the first reply among
them to that call, and do nothing else (`answerAll_eq`). The order of envelopes that are for
different calls makes no difference, then, and neither do those that are for none. -/

namespace SessionHub

/-- Whether an envelope is a response or an error for the call `id`. -/
def Envelope.isFor (id : MessageId) : Envelope → Bool
  | .response (some id') _ | .error (some id') _ => id' = id
  | _ => false

/-- What an envelope says of the call `id`, if it is for that call. -/
def Envelope.replyTo? (id : MessageId) (e : Envelope) : Option Reply :=
  e.reply?.bind fun p => if p.1 = id then some p.2 else none

/-- What the first of some envelopes that is for the call `id` says. -/
def Envelope.firstReply? (id : MessageId) (es : List Envelope) : Option Reply :=
  es.findSome? (replyTo? id)

namespace Envelope

theorem isSome_replyTo? (id : MessageId) (e : Envelope) : (e.replyTo? id).isSome = e.isFor id := by
  cases e with
  | response id' data => cases id' <;> simp [replyTo?, reply?, isFor, apply_ite]
  | error id' data => cases id' <;> simp [replyTo?, reply?, isFor, apply_ite]
  | viewerMethod => rfl
  | binary => rfl

/-- The first reply to a call is known from the envelopes that are for the call. -/
theorem firstReply?_filter (id : MessageId) (es : List Envelope) :
    firstReply? id (es.filter (·.isFor id)) = firstReply? id es := by
  induction es with
  | nil => rfl
  | cons e es ih =>
    have said := e.isSome_replyTo? id
    cases he : e.replyTo? id with
    | some r =>
      rw [he] at said
      simp [firstReply?, ← said, he]
    | none =>
      rw [he] at said
      simp only [firstReply?] at ih
      simp [firstReply?, ← said, he, ih]

theorem isSome_firstReply? (id : MessageId) (es : List Envelope) :
    (firstReply? id es).isSome = es.any (·.isFor id) := by
  simp only [firstReply?, List.isSome_findSome?, isSome_replyTo?]

end Envelope

namespace Caller

/-! ## Envelopes one after the other -/

/-- The caller after envelopes have come in. -/
def answerAll (c : Caller) (es : List Envelope) : Caller :=
  Run.after (fun c e => (c.answer e).1) c es

/-- For each of the envelopes that come in, whether it completes a call. -/
def verdicts (c : Caller) (es : List Envelope) : List Bool :=
  Run.seen (fun c e => (c.answer e).1) (fun c e => [(c.answer e).2.1]) c es

/-- The caller with the result `reply id` for each outstanding call `id` that has one. -/
def settleAll (c : Caller) (reply : MessageId → Option Reply) : Caller :=
  { c with
    table := c.table.filter fun e => (reply e.1).isNone
    tickets := c.tickets.mapIdx fun k t =>
      if (t.id, k) ∈ c.table then { t with result := (reply t.id).or t.result } else t }

theorem tickets_settleAll (c : Caller) (reply : MessageId → Option Reply) (k : Nat) :
    (c.settleAll reply).tickets[k]? = (c.tickets[k]?).map fun t =>
      if (t.id, k) ∈ c.table then { t with result := (reply t.id).or t.result } else t :=
  Array.getElem?_mapIdx

/-- Calls are settled if the table and the tickets say so and all else is the same. -/
theorem eq_settleAll {c d : Caller} {reply : MessageId → Option Reply}
    (table : d.table = c.table.filter fun e => (reply e.1).isNone)
    (tickets : ∀ k : Nat, d.tickets[k]? = (c.settleAll reply).tickets[k]?)
    (others : d = { c with table := d.table, tickets := d.tickets }) : d = c.settleAll reply := by
  rw [others, table, Array.ext_getElem? tickets]
  rfl

theorem settleAll_none (c : Caller) : c.settleAll (fun _ => none) = c := by
  refine (eq_settleAll (by simp) (fun k => ?_) rfl).symm
  rw [tickets_settleAll]
  simp

/-- Only the replies to calls that are outstanding count. -/
theorem settleAll_congr {c : Caller} {f g : MessageId → Option Reply}
    (same : ∀ e ∈ c.table, f e.1 = g e.1) : c.settleAll f = c.settleAll g := by
  refine eq_settleAll (List.filter_congr fun e he => by rw [same e he]) (fun k => ?_) rfl
  rw [tickets_settleAll, tickets_settleAll]
  refine Option.map_congr fun t _ => ?_
  split
  · next entry => rw [same _ entry]
  · rfl

namespace Keyed

variable {c : Caller}

/-- To complete an outstanding call and then to settle others is to settle them all. -/
theorem settleAll_strike (h : c.Keyed) {id : MessageId} {k : Nat} (entry : (id, k) ∈ c.table)
    (r : Reply) (reply : MessageId → Option Reply) :
    (c.strike id k fun t => { t with result := some r }).settleAll reply =
      c.settleAll fun id' => if id' = id then some r else reply id' := by
  refine eq_settleAll ?_ (fun j => ?_) rfl
  · show (c.table.filter (·.1 ≠ id)).filter (fun e => (reply e.1).isNone) = _
    rw [List.filter_filter]
    refine List.filter_congr fun e _ => ?_
    by_cases same : e.1 = id <;> simp [same]
  · have left : ∀ i, (i, j) ∈ (c.strike id k fun t => { t with result := some r }).table ↔
        (i, j) ∈ c.table ∧ i ≠ id := by
      intro i
      simp [strike]
    rw [tickets_settleAll, tickets_settleAll, tickets_strike]
    by_cases hkj : k = j
    · subst hkj
      obtain ⟨s, hs, hid, -⟩ := h.entry id k entry
      simp [hs, hid, entry, left]
    · rw [if_neg hkj]
      refine Option.map_congr fun t _ => ?_
      by_cases same : t.id = id
      · -- the identity leads to the other ticket only
        have absent : (id, j) ∉ c.table := by
          intro other
          have found := h.lookup_eq_some.mpr other
          rw [h.lookup_eq_some.mpr entry] at found
          exact hkj (Option.some.inj found)
        simp [same, left, absent]
      · simp [same, left]

/-- An envelope that comes in settles its call, if that is outstanding. -/
theorem settleAll_answer (h : c.Keyed) (e : Envelope) (reply : MessageId → Option Reply) :
    (c.answer e).1.settleAll reply = c.settleAll fun id => (e.replyTo? id).or (reply id) := by
  cases he : e.reply? with
  | none => simp [answer_of_no_reply he, Envelope.replyTo?, he]
  | some p =>
    obtain ⟨id, r⟩ := p
    have told : ∀ id', (e.replyTo? id').or (reply id') = if id' = id then some r else reply id' := by
      intro id'
      simp only [Envelope.replyTo?, he, Option.bind_some, eq_comm (a := id)]
      split <;> rfl
    simp only [answer_of_reply he, told]
    cases found : c.table.lookup id with
    | some k =>
      have entry := h.lookup_eq_some.mp found
      rw [h.complete_of_entry entry r, h.settleAll_strike entry]
    | none =>
      have same : (c.complete id r).1 = c := by rw [complete, found]
      rw [same]
      refine settleAll_congr fun e' he' => ?_
      have other := List.lookup_eq_none_iff.mp found e' he'
      rw [if_neg (by simpa using Ne.symm (bne_iff_ne.mp other))]

/-- What envelopes come to: the first reply to each outstanding call. -/
theorem answerAll_eq (h : c.Keyed) (es : List Envelope) :
    c.answerAll es = c.settleAll fun id => Envelope.firstReply? id es := by
  induction es generalizing c with
  | nil => exact c.settleAll_none.symm
  | cons e es ih =>
    have keyed : (c.answer e).1.Keyed := h.move (.answer e)
    have first : ∀ id, Envelope.firstReply? id (e :: es) =
        (e.replyTo? id).or (Envelope.firstReply? id es) := by
      intro id
      simp only [Envelope.firstReply?, List.findSome?_cons]
      cases e.replyTo? id <;> rfl
    calc
      c.answerAll (e :: es) = (c.answer e).1.answerAll es := rfl
      _ = (c.answer e).1.settleAll fun id => Envelope.firstReply? id es := ih keyed
      _ = c.settleAll fun id => Envelope.firstReply? id (e :: es) := by
          simp only [h.settleAll_answer, first]

/-! ## How many calls are completed -/

theorem pending_answer (h : c.Keyed) (e : Envelope) :
    (c.answer e).1.pending + (c.answer e).2.1.toNat = c.pending := by
  cases he : e.reply? with
  | none => simp [answer_of_no_reply he]
  | some p =>
    obtain ⟨id, r⟩ := p
    rw [answer_of_reply he]
    cases found : c.table.lookup id with
    | some k =>
      have entry := h.lookup_eq_some.mp found
      rw [h.complete_of_entry entry r]
      exact pending_strike h.nodup entry k _
    | none => simp [complete, found]

/-- Every envelope that completes a call takes one entry away, and no other does. -/
theorem count_verdicts (h : c.Keyed) (es : List Envelope) :
    (c.answerAll es).pending + (c.verdicts es).count true = c.pending := by
  induction es generalizing c with
  | nil => rfl
  | cons e es ih =>
    have keyed : (c.answer e).1.Keyed := h.move (.answer e)
    have rest := ih keyed
    have first := h.pending_answer e
    have parts : (c.verdicts (e :: es)).count true =
        (c.answer e).2.1.toNat + ((c.answer e).1.verdicts es).count true := by
      rw [verdicts, Run.seen_cons, List.count_append]
      cases (c.answer e).2.1 <;> rfl
    have state : c.answerAll (e :: es) = (c.answer e).1.answerAll es := rfl
    rw [parts, state]
    omega

/-- As many envelopes complete a call as there are outstanding calls that some are for. -/
theorem count_verdicts_eq (h : c.Keyed) (es : List Envelope) :
    (c.verdicts es).count true = c.table.countP fun e => es.any (·.isFor e.1) := by
  have balance := h.count_verdicts es
  rw [h.answerAll_eq, pending, settleAll, ← List.countP_eq_length_filter] at balance
  have parts := c.table.length_eq_countP_add_countP fun e => es.any (·.isFor e.1)
  have unanswered : c.table.countP (fun e => (Envelope.firstReply? e.1 es).isNone) =
      c.table.countP fun e => ¬ es.any (·.isFor e.1) := by
    refine List.countP_congr fun e _ => ?_
    rw [← Envelope.isSome_firstReply?]
    simp
  rw [unanswered] at balance
  have total : c.pending = c.table.length := rfl
  omega

end Keyed

/-! ## The order of envelopes -/

/-- After every run, envelopes that come in give each pending call the first reply among them
    (`firstReply?`), and as many of them complete a call as there are entries that some envelope is
    for. So two lists of envelopes with the same replies to each call in the same order (`isFor`)
    lead to the same state, and complete equally many calls. -/
theorem answerAll_eq_of_same_order (moves : List Move) (es fs : List Envelope)
    (same : ∀ id, es.filter (·.isFor id) = fs.filter (·.isFor id)) :
    let c := run {} moves
    c.answerAll es = c.settleAll (fun id => Envelope.firstReply? id es) ∧
      (c.verdicts es).count true = c.table.countP (fun e => es.any (·.isFor e.1)) ∧
      c.answerAll es = c.answerAll fs ∧
      (c.verdicts es).count true = (c.verdicts fs).count true := by
  intro c
  have keyed : c.Keyed := keyed_run moves
  have first : ∀ id, Envelope.firstReply? id es = Envelope.firstReply? id fs := by
    intro id
    rw [← Envelope.firstReply?_filter, same, Envelope.firstReply?_filter]
  have states : c.answerAll es = c.answerAll fs := by
    rw [keyed.answerAll_eq, keyed.answerAll_eq, funext first]
  have left := keyed.count_verdicts es
  have right := keyed.count_verdicts fs
  rw [states] at left
  exact ⟨keyed.answerAll_eq es, keyed.count_verdicts_eq es, states, by omega⟩

/-- A reply and an error that come in the other way round, with a second reply to the first call and
    bytes that are for none. -/
theorem answerAll_eq_of_two_calls :
    let c := run {} [.issue true "save" [] [], .issue true "load" [] []]
    let es : List Envelope := [.response (some ⟨1⟩) .null, .binary none [7],
      .error (some ⟨2⟩) (.string "late"), .response (some ⟨1⟩) (.string "again")]
    let fs : List Envelope := [.error (some ⟨2⟩) (.string "late"), .response (some ⟨1⟩) .null,
      .response (some ⟨1⟩) (.string "again"), .binary none [7]]
    c.answerAll es = c.answerAll fs ∧ (c.verdicts es).count true = 2 ∧
      (c.verdicts fs).count true = 2 := by
  intro c es fs
  have same : ∀ id, es.filter (·.isFor id) = fs.filter (·.isFor id) := by
    intro id
    by_cases first : (⟨1⟩ : MessageId) = id
    · subst first
      rfl
    · by_cases second : (⟨2⟩ : MessageId) = id <;>
        simp [es, fs, Envelope.isFor, first, second]
  obtain ⟨-, -, states, verdicts⟩ := answerAll_eq_of_same_order _ es fs same
  have two : (c.verdicts es).count true = 2 := by decide
  exact ⟨states, two, verdicts ▸ two⟩

end Caller

end SessionHub
