import SessionHub.Proofs.Caller.Slots
import SessionHub.Proofs.Envelope.RoundTrip

set_option autoImplicit false

/-! # Frames

The bytes of a frame come from a peer and may be anything. They complete a call if they are the text
of a response or of an error that names a call in the table: its entry goes, its ticket has the
reply, and nothing else is touched (`Keyed.receive_of_entry`). Any other bytes leave the caller as
it is and are logged in one record, which says why they were dismissed (`receive_of_no_reply`,
`receive_of_no_entry`). -/

namespace SessionHub.Caller

variable {c : Caller} {bytes : Bytes} {e : Envelope} {id : MessageId} {r : Reply}

/-- What is logged of bytes that complete no call: that they are no envelope, that the envelope
    answers nothing, or that the call is not pending any more. -/
def dismissal (bytes : Bytes) : Record :=
  match Envelope.read bytes with
  | .error failure => .unreadableMessage (Envelope.refusal failure)
  | .ok e =>
    match e.reply? with
    | some (id, _) => .staleAnswer id
    | none => .answersNothing e.kind e.id

/-- Bytes that cannot be read, or that answer nothing, are dismissed. -/
theorem receive_of_no_reply (c : Caller)
    (silent : ∀ e, Envelope.read bytes = .ok e → e.reply? = none) :
    c.receive bytes = (c, false, [dismissal bytes]) := by
  unfold receive dismissal
  cases read : Envelope.read bytes with
  | error failure => simp
  | ok e => simp [silent e read, answer_of_no_reply]

/-- An answer to a call that is not outstanding is dismissed. -/
theorem receive_of_no_entry (read : Envelope.read bytes = .ok e) (reply : e.reply? = some (id, r))
    (absent : c.table.lookup id = none) : c.receive bytes = (c, false, [dismissal bytes]) := by
  simp [receive, dismissal, read, answer_of_reply reply, reply, complete, absent]

/-- An answer to an outstanding call completes that call and does nothing else. -/
theorem Keyed.receive_of_entry (keyed : c.Keyed) (read : Envelope.read bytes = .ok e)
    (reply : e.reply? = some (id, r)) {k : Nat} (entry : (id, k) ∈ c.table) :
    c.receive bytes = (c.strike id k fun t => { t with result := some r }, true, []) := by
  simp [receive, read, answer_of_reply reply, keyed.complete_of_entry entry r]

/-- After every run, `receive` completes a call exactly if the bytes are the text of a response or
    an error whose identity has an entry. It then takes the entry out, gives its waiting ticket the
    reply, and changes and logs nothing else. Otherwise it leaves the caller as it is and logs one
    record (`dismissal`). -/
theorem receive_completes_iff (moves : List Move) (bytes : Bytes) :
    let c := run {} moves
    let received := c.receive bytes
    (received.2.1 = true ↔ ∃ e id r, Envelope.read bytes = .ok e ∧ e.reply? = some (id, r) ∧
      id ∈ c.table.map (·.1)) ∧
    (∀ e id r k, Envelope.read bytes = .ok e → e.reply? = some (id, r) → (id, k) ∈ c.table →
      (∃ t, c.tickets[k]? = some t ∧ t.id = id ∧ t.waiting) ∧
      received = ({ c with
        table := c.table.filter (·.1 ≠ id)
        tickets := c.tickets.modify k fun t => { t with result := some r } }, true, [])) ∧
    (received.2.1 = false → received = (c, false, [dismissal bytes])) := by
  intro c received
  have keyed : c.Keyed := keyed_run moves
  have completed : ∀ e id r k, Envelope.read bytes = .ok e → e.reply? = some (id, r) →
      (id, k) ∈ c.table → received = (c.strike id k fun t => { t with result := some r }, true, []) :=
    fun _ _ _ _ read reply entry => keyed.receive_of_entry read reply entry
  -- bytes that are not an answer to an outstanding call are dismissed
  have dismissed : (¬ ∃ e id r, Envelope.read bytes = .ok e ∧ e.reply? = some (id, r) ∧
      id ∈ c.table.map (·.1)) → received = (c, false, [dismissal bytes]) := by
    intro nothing
    cases read : Envelope.read bytes with
    | error failure => exact c.receive_of_no_reply (by simp [read])
    | ok e =>
      cases reply : e.reply? with
      | none => exact c.receive_of_no_reply (by simp [read, reply])
      | some p =>
        refine receive_of_no_entry read reply (Option.eq_none_iff_forall_ne_some.mpr fun k found => ?_)
        exact nothing ⟨e, p.1, p.2, read, reply,
          List.mem_map.mpr ⟨_, keyed.lookup_eq_some.mp found, rfl⟩⟩
  refine ⟨⟨fun completes => ?_, ?_⟩, fun e id r k read reply entry => ?_, fun nothing => ?_⟩
  · by_contra other
    rw [dismissed other] at completes
    cases completes
  · rintro ⟨e, id, r, read, reply, there⟩
    obtain ⟨⟨_, k⟩, entry, rfl⟩ := List.mem_map.mp there
    rw [completed e _ r k read reply entry]
  · exact ⟨keyed.entry id k entry, completed e id r k read reply entry⟩
  · refine dismissed ?_
    rintro ⟨e, id, r, read, reply, there⟩
    obtain ⟨⟨_, k⟩, entry, rfl⟩ := List.mem_map.mp there
    rw [completed e _ r k read reply entry] at nothing
    cases nothing

/-- The text of an error for the first of two calls settles that call and leaves the other one. When
    it comes again, it is dismissed. -/
theorem receive_completes_first_call :
    let c := run {} [.issue true "save" [] [], .issue true "load" [] []]
    let e : Envelope := .error (some ⟨1⟩) (.string "disk full")
    let d := c.move (.receive e.write)
    Envelope.read e.write = .ok e ∧ (c.receive e.write).2.1 = true ∧ d.table = [(⟨2⟩, 1)] ∧
    d.receive e.write = (d, false, [.staleAnswer ⟨1⟩]) := by
  intro c e d
  have read : Envelope.read e.write = .ok e := Envelope.read_write ⟨rfl, rfl, by decide⟩
  let calls : List Move := [.issue true "save" [] [], .issue true "load" [] []]
  obtain ⟨completes, settles, -⟩ := receive_completes_iff calls e.write
  obtain ⟨again, -, dismissed⟩ := receive_completes_iff (calls ++ [.receive e.write]) e.write
  obtain ⟨-, settled⟩ := settles e ⟨1⟩ (.error (.remote "disk full")) 0 read rfl (by decide)
  have left : d.table = [(⟨2⟩, 1)] := congrArg (fun p => p.1.table) settled
  have late : ¬ (d.receive e.write).2.1 = true := by
    intro completed
    obtain ⟨e', id, r, read', reply, there⟩ := again.mp completed
    obtain rfl : e = e' := Except.ok.inj (read.symm.trans read')
    obtain ⟨rfl, -⟩ := Prod.mk.inj (Option.some.inj reply)
    have there : (⟨1⟩ : MessageId) ∈ d.table.map (·.1) := there
    rw [left] at there
    revert there
    decide
  have told : dismissal e.write = .staleAnswer ⟨1⟩ := by
    simp only [dismissal, read]
    rfl
  refine ⟨read, completes.mpr ⟨e, ⟨1⟩, _, read, rfl, by decide⟩, left, ?_⟩
  rw [← told]
  exact dismissed (Bool.eq_false_iff.mpr late)

end SessionHub.Caller
