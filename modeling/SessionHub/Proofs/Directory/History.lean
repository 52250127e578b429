import SessionHub.Proofs.Directory.Switchboard

set_option autoImplicit false

/-! # Which callbacks are called

Whatever is done to a directory, as long as fewer than `2 ^ 32` callbacks are enrolled: the callback
that was enrolled under a number is called with what was delivered to that number until it was
struck off, in order and each once, and no other callback is called (`calls_are_deliveries`). What
happened before an operation is summed up by the numbers that were given (`Sound`), and what happens
to one number is followed from there (`Sound.follow`). -/

namespace SessionHub.Switchboard

variable {κ ω : Type} (react : κ → Bytes → ω → ω × Except DeliveryError Unit)

/-! ## Numbers that were given -/

/-- Whether the entries and calls of a switchboard bear numbers that were given for their
    callbacks. -/
structure Sound (s : Switchboard κ ω) : Prop where
  numbered : s.directory.Numbered
  named : ∀ id e, s.directory.callback? id = some e → e.id = id
  called : ∀ c ∈ s.calls, c.1.id.val.toNat ≤ s.directory.enrolments

theorem sound_start (world : ω) : ({ world } : Switchboard κ ω).Sound where
  numbered := .start
  named := nofun
  called := nofun

theorem enrolments_operate (s : Switchboard κ ω) (o : Operation κ ω) :
    (s.operate react o).directory.enrolments =
      s.directory.enrolments + if o.enrols then 1 else 0 := by
  rw [directory_operate]
  cases o <;> rfl

variable {s : Switchboard κ ω}

/-- An entry after an operation was there before, or was enrolled by it. -/
theorem listed_of_operate {o : Operation κ ω}
    (few : s.directory.enrolments + (if o.enrols then 1 else 0) < Directory.numbers)
    {id : SessionId} {e : Subscriber κ}
    (found : (s.operate react o).directory.callback? id = some e) :
    s.directory.callback? id = some e ∨
      o = .enrol e.recipient ∧ e.id = id ∧ id = s.directory.nextId := by
  rw [directory_operate] at found
  cases o with
  | enrol r =>
    have found : (s.directory.enrol _).callback? id = some e := found
    rw [Directory.callback?_enrol] at found
    split at found
    · next new =>
      cases found
      exact .inr ⟨rfl, new.symm, new⟩
    · exact .inl found
  | strike other =>
    have found : (s.directory.remove other).callback? id = some e := found
    rw [Directory.callback?_remove] at found
    split at found
    · cases found
    · exact .inl found
  | _ => exact .inl found

/-- A number that was given is on the list until it is struck off, and never again after that. -/
theorem callback?_operate {id : SessionId} (given : id.val.toNat ≤ s.directory.enrolments)
    (o : Operation κ ω)
    (few : s.directory.enrolments + (if o.enrols then 1 else 0) < Directory.numbers) :
    (s.operate react o).directory.callback? id =
      if o.strikes id then none else s.directory.callback? id := by
  rw [directory_operate]
  cases o with
  | enrol r =>
    have other : id ≠ s.directory.nextId := by
      rintro rfl
      rw [Directory.toNat_nextId few] at given
      exact Nat.not_succ_le_self _ given
    refine (Directory.callback?_enrol _ _ id).trans ?_
    rw [if_neg other]
    rfl
  | strike other =>
    refine (Directory.callback?_remove _ other id).trans ?_
    simp only [Operation.strikes, decide_eq_true_eq, eq_comm (a := id)]
  | _ => rfl

namespace Sound

/-- A callback that is called is listed under the number that the delivery is for. -/
theorem listed_of_called (v : s.Sound) {o : Operation κ ω} {c : Subscriber κ × Bytes}
    (hc : c ∈ o.called s) : s.directory.callback? c.1.id = some c.1 := by
  cases o with
  | deliver id bytes =>
    obtain ⟨e, found, rfl⟩ := Option.map_eq_some_iff.mp (Option.mem_toList.mp hc)
    obtain rfl := v.named id e found
    exact found
  | _ => cases hc

theorem operate (v : s.Sound) (o : Operation κ ω)
    (few : s.directory.enrolments + (if o.enrols then 1 else 0) < Directory.numbers) :
    (s.operate react o).Sound where
  numbered := by
    rw [directory_operate]
    cases o with
    | enrol r => exact v.numbered.enrol few _
    | strike id => exact v.numbered.remove id
    | _ => exact v.numbered
  named id e found := by
    rcases listed_of_operate react few found with old | ⟨-, number, -⟩
    · exact v.named id e old
    · exact number
  called c hc := by
    rw [calls_operate, List.mem_append] at hc
    rw [enrolments_operate]
    refine Nat.le_add_right_of_le ?_
    rcases hc with old | new
    · exact v.called c old
    · exact v.numbered.given _ (Directory.mem_of_callback? (v.listed_of_called new))

/-! ## One number -/

theorem callsOf_operate (v : s.Sound) (id : SessionId) (o : Operation κ ω) :
    (s.operate react o).callsOf id = s.callsOf id ++
      (s.directory.callback? id).toList.flatMap fun e => (o.delivery? id).toList.map (e, ·) := by
  rw [callsOf, calls_operate, List.filter_append, callsOf]
  congr 1
  cases o with
  | deliver other bytes =>
    simp only [Operation.called, Operation.delivery?]
    by_cases here : other = id
    · subst here
      rw [if_pos rfl]
      cases found : s.directory.callback? other with
      | none => rfl
      | some e => simp [v.named other e found]
    · rw [if_neg here]
      cases found : s.directory.callback? other with
      | none => cases s.directory.callback? id <;> rfl
      | some e =>
        rw [← v.named other e found] at here
        cases s.directory.callback? id <;> simp [here]
  | _ => cases s.directory.callback? id <;> rfl

/-- What becomes of a number that was given: its callback is called with what is sent to it, and it
    stays on the list until it is struck off. -/
theorem follow (v : s.Sound) {id : SessionId} (given : id.val.toNat ≤ s.directory.enrolments)
    (ops : List (Operation κ ω))
    (few : s.directory.enrolments + enrolments ops < Directory.numbers) :
    (after react s ops).callsOf id = s.callsOf id ++
        (s.directory.callback? id).toList.flatMap (fun e => (sent id ops).map (e, ·)) ∧
    (after react s ops).directory.callback? id =
      if ops.any (·.strikes id) then none else s.directory.callback? id := by
  induction ops generalizing s with
  | nil => exact ⟨by cases s.directory.callback? id <;> exact (List.append_nil _).symm, rfl⟩
  | cons o ops ih =>
    rw [enrolments_cons] at few
    have few_now : s.directory.enrolments + (if o.enrols then 1 else 0) < Directory.numbers := by
      omega
    obtain ⟨calls, listed⟩ := ih (v.operate react o few_now)
      (by rw [enrolments_operate]; exact Nat.le_add_right_of_le given)
      (by rw [enrolments_operate]; omega)
    rw [callback?_operate react given o few_now] at calls listed
    refine ⟨calls.trans ?_, listed.trans ?_⟩
    · rw [v.callsOf_operate, List.append_assoc]
      congr 1
      cases s.directory.callback? id with
      | none => cases o.strikes id <;> rfl
      | some e =>
        cases now : o.strikes id with
        | true =>
          -- an operation that strikes off delivers nothing, and nothing is sent after it
          have nothing : o.delivery? id = none := by
            cases o <;> first | rfl | cases now
          simp [sent, now, nothing]
        | false => cases delivery : o.delivery? id <;> simp [sent, now, delivery]
    · cases now : o.strikes id <;> simp [now]

/-- `enrol` gives a number under which no callback was called before. -/
theorem enrol (v : s.Sound) (r : Recipient κ)
    (few : s.directory.enrolments + 1 < Directory.numbers) :
    let s' := (s.enrol r).1
    let e : Subscriber κ := ⟨(s.enrol r).2, r⟩
    s'.Sound ∧ e.id.val.toNat = s'.directory.enrolments ∧ s'.directory.callback? e.id = some e ∧
      s'.callsOf e.id = [] := by
  have value := Directory.toNat_nextId few
  refine ⟨v.operate (fun _ _ w => (w, .ok ())) (.enrol r) few, value, ?_, ?_⟩
  · refine (Directory.callback?_enrol _ _ _).trans (if_pos rfl)
  · refine List.filter_eq_nil_iff.mpr fun c hc => ?_
    have earlier := v.called c hc
    rw [decide_eq_true_eq]
    intro same
    rw [same] at earlier
    exact Nat.not_succ_le_self _ (Nat.le_trans (Nat.le_of_eq value.symm) earlier)

end Sound

/-! ## What was enrolled -/

theorem sound_after (world : ω) (ops : List (Operation κ ω))
    (few : enrolments ops < Directory.numbers) :
    (after react { world } ops : Switchboard κ ω).Sound ∧
      (after react { world } ops : Switchboard κ ω).directory.enrolments = enrolments ops := by
  refine Run.after_induction (operate react) (motive := fun ops s =>
    enrolments ops < Directory.numbers → s.Sound ∧ s.directory.enrolments = enrolments ops)
    { world } (fun _ => ⟨sound_start world, rfl⟩) ?_ ops few
  intro ops o ih few
  rw [enrolments_concat] at few ⊢
  obtain ⟨v, counted⟩ := ih (Nat.lt_of_le_of_lt (Nat.le_add_right _ _) few)
  rw [← counted] at few ⊢
  exact ⟨v.operate react o few, enrolments_operate react _ o⟩

variable {react}

theorem Enrolled.concat {ops later : List (Operation κ ω)} {e : Subscriber κ}
    (enrolled : Enrolled react s ops e later) (o : Operation κ ω) :
    Enrolled react s (ops ++ [o]) e (later ++ [o]) := by
  obtain ⟨before, rfl, number⟩ := enrolled
  exact ⟨before, by simp, number⟩

/-- A callback that is listed or was called has been enrolled. -/
theorem enrolled_after (react : κ → Bytes → ω → ω × Except DeliveryError Unit) (world : ω)
    (ops : List (Operation κ ω)) (few : enrolments ops < Directory.numbers) :
    let start : Switchboard κ ω := { world }
    let s := after react start ops
    (∀ id e, s.directory.callback? id = some e → ∃ later, Enrolled react start ops e later) ∧
    ∀ c ∈ s.calls, ∃ later, Enrolled react start ops c.1 later := by
  intro start
  refine Run.after_induction (operate react) (motive := fun ops s =>
    enrolments ops < Directory.numbers →
      (∀ id e, s.directory.callback? id = some e → ∃ later, Enrolled react start ops e later) ∧
      ∀ c ∈ s.calls, ∃ later, Enrolled react start ops c.1 later) start
    (fun _ => ⟨nofun, nofun⟩) ?_ ops few
  intro ops o ih few
  rw [enrolments_concat] at few
  have fewer := Nat.lt_of_le_of_lt (Nat.le_add_right _ _) few
  obtain ⟨listed, called⟩ := ih fewer
  obtain ⟨v, counted⟩ := sound_after react world ops fewer
  rw [← counted] at few
  have still : ∀ {e : Subscriber κ}, (∃ later, Enrolled react start ops e later) →
      ∃ later, Enrolled react start (ops ++ [o]) e later := by
    rintro e ⟨later, enrolled⟩
    exact ⟨later ++ [o], enrolled.concat o⟩
  refine ⟨fun id e found => ?_, fun c hc => ?_⟩
  · rcases listed_of_operate react few found with old | ⟨rfl, number, next⟩
    · exact still (listed id e old)
    · exact ⟨[], ops, rfl, number.trans next⟩
  · rw [calls_operate, List.mem_append] at hc
    rcases hc with old | new
    · exact still (called c old)
    · exact still (listed _ _ (v.listed_of_called new))

/-- What happens to a callback from its enrolment on. -/
theorem Enrolled.follow {world : ω} {ops later : List (Operation κ ω)} {e : Subscriber κ}
    (enrolled : Enrolled react { world } ops e later) (few : enrolments ops < Directory.numbers) :
    let s := after react { world } ops
    s.callsOf e.id = (sent e.id later).map (e, ·) ∧
    s.directory.callback? e.id = if later.any (·.strikes e.id) then none else some e := by
  obtain ⟨before, rfl, number⟩ := enrolled
  obtain ⟨id, r⟩ := e
  obtain rfl : id = ((after react { world } before).enrol r).2 := number
  dsimp only
  have parts :
      enrolments (before ++ .enrol r :: later) = enrolments before + (enrolments later + 1) := by
    rw [enrolments_append, enrolments_cons]
    rfl
  rw [parts] at few
  obtain ⟨v, counted⟩ := sound_after react world before (by omega)
  have room : (after react { world } before).directory.enrolments + 1 < Directory.numbers := by omega
  obtain ⟨v, value, listed, silent⟩ := v.enrol r room
  have last : after react { world } (before ++ .enrol r :: later) =
      after react ((after react { world } before).enrol r).1 later := Run.after_append ..
  obtain ⟨calls, callback⟩ := v.follow react (Nat.le_of_eq value) later (by
    show (after react { world } before).directory.enrolments + 1 + _ < _
    omega)
  rw [last]
  rw [listed] at calls callback
  rw [silent, List.nil_append] at calls
  exact ⟨calls.trans (by simp), callback⟩

variable (react)

/-- The directory has a number that was given until it is struck off, and no others. -/
theorem listed_iff (world : ω) (ops : List (Operation κ ω)) (few : enrolments ops < Directory.numbers)
    (id : SessionId) (e : Subscriber κ) :
    let start : Switchboard κ ω := { world }
    (after react start ops).directory.callback? id = some e ↔ e.id = id ∧
      ∃ later, Enrolled react start ops e later ∧ later.all fun o => !o.strikes id := by
  intro start
  constructor
  · intro found
    obtain rfl := (sound_after react world ops few).1.named id e found
    obtain ⟨later, enrolled⟩ := (enrolled_after react world ops few).1 e.id e found
    refine ⟨rfl, later, enrolled, ?_⟩
    have now := (enrolled.follow few).2.symm.trans found
    rw [List.all_eq_not_any_not]
    simp only [Bool.not_not, Bool.not_eq_true']
    cases struck : later.any (·.strikes e.id) with
    | false => rfl
    | true => simp [struck] at now
  · rintro ⟨rfl, later, enrolled, stays⟩
    refine (enrolled.follow few).2.trans (if_neg ?_)
    simpa using stays

/-! ## How many are on the list -/

theorem size_operate (v : s.Sound) (o : Operation κ ω)
    (few : s.directory.enrolments + (if o.enrols then 1 else 0) < Directory.numbers) :
    (s.operate react o).directory.size + (o.struck s).length =
      s.directory.size + if o.enrols then 1 else 0 := by
  rw [directory_operate]
  cases o with
  | enrol r => exact Directory.size_enrol (Nat.lt_of_succ_lt few) ⟨s.directory.nextId, r⟩
  | strike id =>
    refine Eq.trans ?_ (Directory.size_remove v.numbered id)
    by_cases there : s.directory.contains id <;> simp [Operation.struck, strike, there]
  | _ => rfl

theorem size_after (world : ω) (ops : List (Operation κ ω))
    (few : enrolments ops < Directory.numbers) :
    (after react { world } ops : Switchboard κ ω).directory.size +
      (struck react { world } ops : List SessionId).length = enrolments ops := by
  refine Run.after_induction (operate react) (motive := fun ops s =>
    enrolments ops < Directory.numbers →
      s.directory.size + (struck react { world } ops).length = enrolments ops)
    { world } (fun _ => rfl) ?_ ops few
  intro ops o ih few
  rw [enrolments_concat] at few ⊢
  have fewer := Nat.lt_of_le_of_lt (Nat.le_add_right _ _) few
  obtain ⟨v, counted⟩ := sound_after react world ops fewer
  have now := size_operate react v o (by rw [counted]; exact few)
  rw [struck, Run.seen_concat, ← struck, List.length_append, ← ih fewer, Nat.add_right_comm,
    ← after, ← now, Nat.add_assoc, Nat.add_comm (struck react { world } ops).length]

/-! ## What mailboxes take in -/

theorem received_concat (k : Nat) (s : Switchboard κ ω) (ops : List (Operation κ ω))
    (o : Operation κ ω) :
    received react k s (ops ++ [o]) = received react k s ops ++
      if ((after react s ops).mailboxes k).attended then
        ((o.called (after react s ops)).filter (·.1.recipient.isMailbox k)).map (·.2)
      else [] := by
  have now := unread_operate react (after react s ops) o k
  rw [received, Run.seen_concat, received, List.append_assoc, List.append_assoc, ← now, after,
    Run.after_concat, ← after]

theorem callsInto_operate (s : Switchboard κ ω) (o : Operation κ ω) (k : Nat) :
    (s.operate react o).callsInto k =
      s.callsInto k ++ ((o.called s).filter (·.1.recipient.isMailbox k)).map (·.2) := by
  rw [callsInto, calls_operate, List.filter_append, List.map_append, callsInto]

/-- A mailbox takes in all that its callbacks are called with until its reader goes away. -/
theorem received_after (world : ω) (ops : List (Operation κ ω)) (k : Nat) :
    let start : Switchboard κ ω := { world }
    ((after react start ops).mailboxes k).attended = ops.all (fun o => !o.leaves k) ∧
    received react k start ops =
      (after react start (ops.takeWhile fun o => !o.leaves k)).callsInto k := by
  intro start
  refine Run.after_induction (operate react) (motive := fun ops s =>
    (s.mailboxes k).attended = ops.all (fun o => !o.leaves k) ∧
    received react k start ops =
      (after react start (ops.takeWhile fun o => !o.leaves k)).callsInto k) start ⟨rfl, rfl⟩ ?_ ops
  intro ops o ⟨attended, taken⟩
  refine ⟨?_, ?_⟩
  · rw [attended_operate, attended, List.all_append, List.all_cons, List.all_nil, Bool.and_true]
  · have attended : ((after react start ops).mailboxes k).attended = _ := attended
    rw [received_concat, attended, taken]
    by_cases stays : ops.all fun o => !o.leaves k
    · have all := List.all_eq_true.mp stays
      have whole : ops.takeWhile (fun o => !o.leaves k) = ops := by
        have whole := @List.takeWhile_append_of_pos _ _ ops [] all
        rwa [List.append_nil, List.takeWhile_nil, List.append_nil] at whole
      rw [if_pos stays, List.takeWhile_append_of_pos all, whole]
      cases leaves : o.leaves k with
      | true =>
        have nothing : o.called (after react start ops) = [] := by
          cases o <;> first | rfl | cases leaves
        simp [leaves, nothing]
      | false =>
        have one : [o].takeWhile (fun o => !o.leaves k) = [o] := by simp [leaves]
        rw [one, ← callsInto_operate, after, after, Run.after_concat]
    · have same : (ops ++ [o]).takeWhile (fun o => !o.leaves k) =
          ops.takeWhile fun o => !o.leaves k := by
        rw [List.takeWhile_append, if_neg]
        intro full
        have whole := (List.takeWhile_prefix _).eq_of_length full
        exact stays (whole ▸ List.all_takeWhile)
      rw [if_neg stays, same, List.append_nil]

/-! ## The law -/

/-- In every run of operations on a directory in which fewer than `2 ^ 32` callbacks are enrolled,
    and whatever the callbacks do: a callback was called with what was delivered to its number from
    its enrolment until `strike`, in order and each once, and no other callback was called. A
    mailbox has received what its callbacks were called with until its receiver was dropped
    (`leaves`), from when on they fail with `closed`. `callback?` finds the callback of a number
    from its enrolment until `strike`, which returns `true` just as long; `size` counts the
    enrolments less the successful strikes. `deliver` returns `notFound`, the error of the callback,
    or `ok`, calls no other callback and leaves the directory as it is. -/
theorem calls_are_deliveries (world : ω)
    (ops : List (Operation κ ω)) (few : enrolments ops < UInt32.size) :
    let start : Switchboard κ ω := { world }
    let s := after react start ops
    (∀ e later, Enrolled react start ops e later →
      s.callsOf e.id = (sent e.id later).map (e, ·)) ∧
    (∀ c ∈ s.calls, ∃ later, Enrolled react start ops c.1 later) ∧
    (∀ k, received react k start ops =
      (after react start (ops.takeWhile fun o => !o.leaves k)).callsInto k) ∧
    (∀ e k bytes, e.recipient = .mailbox k →
      (s.call react e bytes).2 =
        if ops.all fun o => !o.leaves k then .ok () else .error .closed) ∧
    (∀ id e, s.directory.callback? id = some e ↔ e.id = id ∧
      ∃ later, Enrolled react start ops e later ∧ later.all fun o => !o.strikes id) ∧
    (∀ id, (s.strike id).2 ↔ ∃ e later, e.id = id ∧ Enrolled react start ops e later ∧
      later.all fun o => !o.strikes id) ∧
    s.directory.size + (struck react start ops).length = enrolments ops ∧
    ∀ id bytes,
      let d := s.deliver react id bytes
      (d.2 = .error (.notFound id) ↔ s.directory.callback? id = none) ∧
      (d.2 = .ok () ↔ ∃ e, s.directory.callback? id = some e ∧
        (s.call react e bytes).2 = .ok ()) ∧
      (∀ err, d.2 = .error (.delivery id err) ↔ ∃ e, s.directory.callback? id = some e ∧
        (s.call react e bytes).2 = .error err) ∧
      d.1.directory = s.directory ∧
      d.1.calls = s.calls ++ ((s.directory.callback? id).map (·, bytes)).toList := by
  intro start s
  obtain ⟨-, called⟩ := enrolled_after react world ops few
  have stays := listed_iff react world ops few
  refine ⟨fun e later enrolled => (enrolled.follow few).1, called,
    fun k => (received_after react world ops k).2, fun e k bytes reached => ?_, stays, fun id => ?_,
    size_after react world ops few, s.deliver_reports react⟩
  · rw [call_of_mailbox react reached, (received_after react world ops k).1]
  · show (s.directory.callback? id).isSome ↔ _
    rw [Option.isSome_iff_exists]
    refine exists_congr fun e => (stays id e).trans ?_
    exact exists_and_left.symm

/-- Two callbacks are enrolled, the second of which always fails. The first is struck off between
    two deliveries to its number. -/
theorem calls_until_struck :
    let react : Unit → Bytes → Unit → Unit × Except DeliveryError Unit :=
      fun _ _ w => (w, .error (.other "busy"))
    let ops : List (Operation Unit Unit) := [.enrol (.mailbox 0), .enrol (.other ()),
      .deliver ⟨1⟩ [120], .deliver ⟨2⟩ [121], .strike ⟨1⟩, .deliver ⟨1⟩ [122]]
    let s := after react { world := () } ops
    s.callsOf ⟨1⟩ = [(⟨⟨1⟩, .mailbox 0⟩, [120])] ∧ received react 0 { world := () } ops = [[120]] ∧
    s.directory.size = 1 := by
  intro react ops s
  obtain ⟨calls, -, taken, -, -, -, size, -⟩ := calls_are_deliveries react () ops (by decide)
  have enrolled : Enrolled react { world := () } ops ⟨⟨1⟩, .mailbox 0⟩ (ops.drop 1) :=
    ⟨[], rfl, rfl⟩
  exact ⟨calls _ _ enrolled, taken 0, Nat.succ.inj size⟩

end SessionHub.Switchboard
