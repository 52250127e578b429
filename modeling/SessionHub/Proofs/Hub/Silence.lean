import SessionHub.Proofs.Hub.Delivery
import SessionHub.Proofs.Hub.Dispatch
import SessionHub.Proofs.Hub.Flight

set_option autoImplicit false

/-! # Silence after a closing

When a session of a hub that hosts sources is closed, its requests may still be in the queue or be
answered already. All the same, nothing comes into its mailbox any more but what is in flight to it
at that moment, and once the engine has been told that the session was closed, no response for it
waits in the engine ever again, while those for others stay as they are (`silence_after_close`).

Two things are followed from the closing on: that no number leads to the mailbox (`Severed`), so
that the bytes in flight to it bound what it still gets, and that the number is in no request that
waits and in no response that is queued (`Silent`). -/

namespace SessionHub

/-- Some calls of an engine of sources, none of which closes a number: what was queued for it and
    the answers to its requests are given or stay queued, in order. -/
theorem Sources.given_append_queued (s : Sources) {id : SessionId} {calls : List Invocation}
    (others : .close id ∉ calls) :
    (engine.after s calls).answer = s.answer ∧
    Response.bytesFor id (engine.given s calls) ++
        Response.bytesFor id (engine.after s calls).queued =
      Response.bytesFor id s.queued ++
        (Command.requestsOf id (calls.map Invocation.command)).map s.answer := by
  induction calls generalizing s with
  | nil => exact ⟨rfl, (List.append_nil _).symm⟩
  | cons call calls ih =>
    rw [List.mem_cons, not_or] at others
    obtain ⟨first, others⟩ := others
    obtain ⟨answer, answered⟩ : ∃ answer, (engine.invoke s call).result = some answer := by
      cases call <;> exact ⟨_, rfl⟩
    obtain ⟨same, moved⟩ := Hub.owed_of_call (Ne.symm first) answered
    obtain ⟨same', rest⟩ := ih (engine.invoke s call).state others
    have given : engine.given s (call :: calls) =
        answer.responses ++ engine.given (engine.invoke s call).state calls := by
      rw [show call :: calls = [call] ++ calls from rfl, engine.given_append,
        engine.given_singleton, answered]
      rfl
    refine ⟨same'.trans same, ?_⟩
    rw [given, Response.bytesFor_append, List.append_assoc]
    show _ ++ (_ ++ Response.bytesFor id (engine.after (engine.invoke s call).state calls).queued) =
      _
    rw [rest, same, ← List.append_assoc, moved, List.map_cons, Command.requestsOf_cons,
      List.map_append, List.append_assoc]

namespace Hub

variable {σ : Type} (E : Engine σ)

/-! ## The calls of some acts -/

/-- The call of the engine that an act makes. -/
def Act.called (h : Hub σ) : Act → List Invocation
  | move m => m.called h
  | openWith _ => []

/-- The calls of the engine that were made in some acts, in order. -/
def calledIn (h : Hub σ) (acts : List Act) : List Invocation :=
  Run.seen (act E) (fun h a => a.called h) h acts

/-- Nothing happens to the engine but the calls. -/
theorem engine_afterActs (h : Hub σ) (acts : List Act) :
    (afterActs E h acts).engine = E.after h.engine (calledIn E h acts) := by
  unfold afterActs calledIn
  induction acts generalizing h with
  | nil => rfl
  | cons a acts ih =>
    have first : (h.act E a).engine = E.after h.engine (a.called h) := by
      by_cases inside : a = .move .drive
      · rw [inside]
        exact (h.routing_step E).1
      · have none_made : a.called h = [] := by
          cases a with
          | openWith callback => rfl
          | move m => exact called_of_outside h fun same => inside (same ▸ rfl)
        rw [(queued_act E h inside).engine, none_made]
        rfl
    rw [Run.after_cons, Run.seen_cons, ih, first, E.after_append]

/-- A law that each act keeps is kept by any number of acts, if fewer than `2 ^ 32` numbers are
    given. -/
theorem afterActs_induction {motive : Hub σ → Prop}
    (step : ∀ (h : Hub σ) (a : Act), a.isDiscreet →
      (h.act E a).directory.enrolments < Directory.numbers → motive h → motive (h.act E a))
    {h : Hub σ} (start : motive h) (acts : List Act) (discreet : ∀ a ∈ acts, a.isDiscreet)
    (few : h.directory.enrolments + acts.countP Act.enrols < Directory.numbers) :
    motive (afterActs E h acts) := by
  induction acts generalizing h with
  | nil => exact start
  | cons a acts ih =>
    obtain ⟨first, discreet⟩ := List.forall_mem_cons.mp discreet
    have count := (altered_act E h first).enrolments_eq
    rw [List.countP_cons] at few
    exact ih (step h a first (by omega) start) discreet (by omega)

/-- Each act that gives a number gives one. -/
theorem enrolments_afterActs (h : Hub σ) {acts : List Act} (discreet : ∀ a ∈ acts, a.isDiscreet) :
    (afterActs E h acts).directory.enrolments =
      h.directory.enrolments + acts.countP Act.enrols := by
  induction acts generalizing h with
  | nil => rfl
  | cons a acts ih =>
    obtain ⟨first, discreet⟩ := List.forall_mem_cons.mp discreet
    have count := (altered_act E h first).enrolments_eq
    rw [List.countP_cons]
    exact (ih (h.act E a) discreet).trans (by omega)

/-! ## Mailboxes -/

/-- Whether mailbox `m` belongs to session `k`: by no other number is it reached, and by that of
    session `k` only while the session is open. -/
structure Leads (k m : Nat) (h : Hub σ) : Prop where
  mailbox : m < h.mailboxes.size
  only : ∀ id, h.directory.callback? id = some (.mailbox m) →
    ∃ s, h.sessions[k]? = some s ∧ s.id = id ∧ s.closed = false

/-- Whether no number leads to mailbox `m`. -/
structure Severed (m : Nat) (h : Hub σ) : Prop where
  mailbox : m < h.mailboxes.size
  unreached : ∀ id, h.directory.callback? id ≠ some (.mailbox m)

namespace Altered

variable {h h' : Hub σ} {a : Act} {k m : Nat}

theorem leads (d : h.Altered a h') (l : h.Leads k m) : h'.Leads k m where
  mailbox := Nat.lt_of_lt_of_le l.mailbox d.size_le
  only id found := by
    rcases d.entry_cases found with ⟨before, kept⟩ | ⟨new, -⟩
    · obtain ⟨s, there, same, live⟩ := l.only id before
      refine ⟨_, d.session_next there, same, ?_⟩
      rw [live, Bool.false_or, ← Bool.not_eq_true]
      intro closes
      rw [kept k s there same closes] at live
      cases live
    · exact absurd (new ▸ l.mailbox) (Nat.lt_irrefl _)

/-- When a session is closed, no number leads to its mailbox any more. -/
theorem severed_of_closes (d : h.Altered a h') (l : h.Leads k m) (closes : a.closes k) :
    h'.Severed m where
  mailbox := (d.leads l).mailbox
  unreached id found := by
    rcases d.entry_cases found with ⟨before, kept⟩ | ⟨new, -⟩
    · obtain ⟨s, there, same, live⟩ := l.only id before
      rw [kept k s there same closes] at live
      cases live
    · exact absurd (new ▸ l.mailbox) (Nat.lt_irrefl _)

theorem severed (d : h.Altered a h') (v : h.Severed m) : h'.Severed m where
  mailbox := Nat.lt_of_lt_of_le v.mailbox d.size_le
  unreached id found := by
    rcases d.entry_cases found with ⟨before, -⟩ | ⟨new, -⟩
    · exact v.unreached id before
    · exact absurd (new ▸ v.mailbox) (Nat.lt_irrefl _)

end Altered

theorem Leads.acts {h : Hub σ} {k m : Nat} (l : h.Leads k m) {acts : List Act}
    (discreet : ∀ a ∈ acts, a.isDiscreet) : (afterActs E h acts).Leads k m := by
  induction acts generalizing h with
  | nil => exact l
  | cons a acts ih =>
    obtain ⟨first, discreet⟩ := List.forall_mem_cons.mp discreet
    exact ih ((altered_act E h first).leads l) discreet

/-- What is ever added to a mailbox that no number leads to was in flight to it. -/
theorem Severed.addedIn_append_inFlightTo {h : Hub σ} {m : Nat} (v : h.Severed m) (acts : List Act)
    (discreet : ∀ a ∈ acts, a.isDiscreet) :
    (addedIn E m h acts ++ (afterActs E h acts).inFlightTo m).Subperm (h.inFlightTo m) := by
  induction acts generalizing h with
  | nil => exact .refl _
  | cons a acts ih =>
    obtain ⟨first, discreet⟩ := List.forall_mem_cons.mp discreet
    have later := ih ((altered_act E h first).severed v) discreet
    rw [addedIn, Run.seen_cons, List.append_assoc]
    exact ((List.subperm_append_left _).mpr later).trans (added_append_inFlightTo_act v.unreached a)

/-! ## Commands -/

/-- The order among sessions, mailboxes and the commands that wait: behind a closing no request
    comes from the session that is closed. -/
structure Sealed (h : Hub σ) : Prop where
  issued : h.Issued
  places : ∀ (id : SessionId) (m : Nat), h.directory.callback? id = some (.mailbox m) →
    m < h.mailboxes.size
  closing : ∀ (before behind : List Command) (id : SessionId),
    h.commands = before ++ .close id :: behind → h.Gone id ∧ ∀ bytes, .request id bytes ∉ behind

theorem sealed_start (engine : σ) (mode : Mode) : ({ engine, mode } : Hub σ).Sealed where
  issued := ⟨by simp, by simp⟩
  places := by simp [Directory.callback?]
  closing before behind id parts := by cases before <;> cases parts

namespace Sealed

variable {h : Hub σ}

/-- A session that is closed leaves its number for good. -/
theorem gone_of_closed (v : h.Sealed) {h' : Hub σ} {a : Act} (d : h.Altered a h') {k : Nat}
    {s : Session} (few : h'.directory.enrolments < Directory.numbers)
    (found : h.sessions[k]? = some s) (closes : a.closes k) : h'.Gone s.id where
  given := by
    rw [d.enrolments_eq]
    exact Nat.le_add_right_of_le (v.issued.given k s found)
  closed j t there same := by
    have next := d.session_next found
    obtain rfl := (d.issued few v.issued).distinct j k t _ there next same
    rw [next] at there
    cases there
    rw [closes, Bool.or_true]

theorem act (v : h.Sealed) {a : Act} (discreet : a.isDiscreet)
    (few : (h.act E a).directory.enrolments < Directory.numbers) : (h.act E a).Sealed := by
  have d := altered_act E h discreet
  refine ⟨d.issued few v.issued, fun id m found => ?_, fun before behind id parts => ?_⟩
  · rcases d.entry_cases found with ⟨old, -⟩ | ⟨-, new⟩
    · exact Nat.lt_of_lt_of_le (v.places id m old) d.size_le
    · exact new
  by_cases inside : a = .move .drive
  · subst inside
    have parts : (h.step E).commands = before ++ .close id :: behind := parts
    rcases h.commands_step E with ⟨taken, rest⟩ | polls
    · rw [parts, ← List.append_assoc] at rest
      obtain ⟨gone, nothing⟩ := v.closing _ behind id rest.symm
      exact ⟨d.gone few gone, nothing⟩
    · have here : Command.close id ∈ (h.step E).commands := by simp [parts]
      cases polls _ here
  · rw [(queued_act E h inside).commands] at parts
    rcases h.accepted_cases a with nothing | ⟨c, one⟩
    · rw [nothing, List.append_nil] at parts
      obtain ⟨gone, silent⟩ := v.closing before behind id parts
      exact ⟨d.gone few gone, silent⟩
    · -- the command that comes in is the closing, or it comes behind it
      have sent := sent_of_accepted discreet (h := h) (c := c) (by simp [one])
      rw [one] at parts
      rcases List.eq_nil_or_concat behind with rfl | ⟨behind, last, rfl⟩
      · obtain ⟨-, same⟩ := List.append_inj' parts rfl
        cases List.singleton_inj.mp same
        cases sent with
        | close k s found live closes => exact ⟨v.gone_of_closed d few found closes, by simp⟩
      · rw [List.concat_eq_append] at parts ⊢
        rw [← List.cons_append, ← List.append_assoc] at parts
        obtain ⟨waiting, same⟩ := List.append_inj' parts rfl
        cases List.singleton_inj.mp same
        obtain ⟨gone, silent⟩ := v.closing before behind id waiting
        refine ⟨d.gone few gone, fun bytes there => ?_⟩
        rcases List.mem_append.mp there with old | new
        · exact silent bytes old
        · exact (gone.ne_of_sent sent).1 bytes (List.mem_singleton.mp new).symm

theorem acts (v : h.Sealed) {acts : List Act} (discreet : ∀ a ∈ acts, a.isDiscreet)
    (few : h.directory.enrolments + acts.countP Act.enrols < Directory.numbers) :
    (afterActs E h acts).Sealed :=
  afterActs_induction E (fun _ _ discreet few v => v.act E discreet few) v acts discreet few

end Sealed

/-! ## Responses that are queued -/

/-- Whether a hub that hosts sources has come to the end of what it does for a number. -/
structure Silent (h : Hub Sources) (id : SessionId) : Prop where
  gone : h.Gone id
  asked : ∀ bytes, .request id bytes ∉ h.commands
  queued : ∀ r ∈ h.engine.queued, r.session ≠ id

/-- A call leaves no response queued for a number for which none was queued, unless it is a request
    of that number. -/
theorem queued_of_call {s : Sources} {id : SessionId} (none_queued : ∀ r ∈ s.queued, r.session ≠ id)
    {call : Invocation} (other : ∀ bytes, call ≠ .request id bytes) :
    ∀ r ∈ (Sources.engine.invoke s call).state.queued, r.session ≠ id := by
  cases call with
  | request id' bytes =>
    intro r there
    rcases List.mem_append.mp there with old | new
    · exact none_queued r old
    · rw [List.mem_singleton.mp new]
      rintro rfl
      exact other bytes rfl
  | poll => exact fun r there => none_queued r (List.mem_of_mem_drop there)
  | close id' => exact fun r there => none_queued r (List.mem_filter.mp there).1

theorem Silent.act {h : Hub Sources} {id : SessionId} (v : h.Silent id) {a : Act}
    (discreet : a.isDiscreet)
    (few : (h.act Sources.engine a).directory.enrolments < Directory.numbers) :
    (h.act Sources.engine a).Silent id := by
  have gone := (altered_act Sources.engine h discreet).gone few v.gone
  by_cases inside : a = .move .drive
  · subst inside
    refine ⟨gone, fun bytes waits => ?_, ?_⟩
    · rcases mem_commands_of_step Sources.engine waits with poll | old
      · cases poll
      · exact v.asked bytes old
    show ∀ r ∈ (h.step Sources.engine).engine.queued, r.session ≠ id
    have made : ∀ call, h.phase = .calling call → ∀ bytes, call ≠ .request id bytes := by
      rintro call calling bytes rfl
      exact v.asked bytes (by rw [commands_of_calling calling]; exact List.mem_cons_self)
    cases h.stepped Sources.engine with
    | quiet engine => exact engine ▸ v.queued
    | stopped engine => exact engine ▸ v.queued
    | answered call answer calling result engine =>
      exact engine ▸ queued_of_call v.queued (made call calling)
    | panicked call calling result engine =>
      exact engine ▸ queued_of_call v.queued (made call calling)
    | routed d delivering engine => exact engine ▸ v.queued
  · have queued := queued_act Sources.engine h inside
    refine ⟨gone, fun bytes waits => ?_, queued.engine ▸ v.queued⟩
    rw [queued.commands] at waits
    rcases List.mem_append.mp waits with old | new
    · exact v.asked bytes old
    · exact (v.gone.ne_of_sent (sent_of_accepted discreet new)).1 bytes rfl

theorem Silent.acts {h : Hub Sources} {id : SessionId} (v : h.Silent id) {acts : List Act}
    (discreet : ∀ a ∈ acts, a.isDiscreet)
    (few : h.directory.enrolments + acts.countP Act.enrols < Directory.numbers) :
    (afterActs Sources.engine h acts).Silent id :=
  afterActs_induction (motive := (Silent · id)) Sources.engine
    (fun _ _ discreet few v => v.act discreet few) v acts discreet few

/-- The driver tells the engine that a session was closed: what is queued for it is discarded, and
    everything else stays. -/
theorem queued_of_closing {h : Hub Sources} {id : SessionId}
    (calling : h.phase = .calling (.close id)) :
    (h.step Sources.engine).engine.queued = h.engine.queued.filter (·.session ≠ id) := by
  rw [(h.routing_step Sources.engine).1, inCall_of_calling calling]
  rfl

theorem Sealed.silent {h : Hub Sources} (v : h.Sealed) {id : SessionId}
    (calling : h.phase = .calling (.close id))
    (few : (h.act Sources.engine (.move .drive)).directory.enrolments < Directory.numbers) :
    (h.act Sources.engine (.move .drive)).Silent id := by
  have d : h.Altered (.move .drive) (h.step Sources.engine) := altered_act Sources.engine h rfl
  obtain ⟨gone, nothing⟩ := v.closing [] h.queue id (commands_of_calling calling)
  have rest : (h.step Sources.engine).commands = h.queue := by
    have step : h.step Sources.engine = h.finish Sources.engine (.close id) := by
      simp only [Hub.step, calling]
    rw [step, finish_of_answer Sources.engine rfl, commands_accept]
    rfl
  refine ⟨d.gone few gone, fun bytes => rest ▸ nothing bytes, fun r there => ?_⟩
  have there : r ∈ (h.step Sources.engine).engine.queued := there
  rw [queued_of_closing calling] at there
  exact of_decide_eq_true (List.mem_filter.mp there).2

/-! ## The law -/

/-- The number of a session that is opened with a mailbox leads to it, and no other number does. -/
theorem Sealed.leads_openMailbox {h : Hub σ} (v : h.Sealed) :
    h.openMailbox.1.Leads h.openMailbox.2.1 h.openMailbox.2.2 where
  mailbox := by
    show h.mailboxes.size < (h.mailboxes.push {}).size
    rw [Array.size_push]
    exact Nat.lt_succ_self _
  only id found := by
    have found : (h.directory.enrol (.mailbox h.mailboxes.size)).callback? id =
      some (.mailbox h.mailboxes.size) := found
    rw [Directory.callback?_enrol] at found
    split at found
    · next number =>
      refine ⟨{ id := h.directory.nextId }, ?_, number.symm, rfl⟩
      exact Array.getElem?_push_size
    · exact absurd (v.places id _ found) (Nat.lt_irrefl _)

/-- What is added to a mailbox from the closing of its session on was in flight to it when the
    session was closed. -/
theorem Leads.addedIn_subperm {h : Hub σ} {k m : Nat} (l : h.Leads k m) {a : Act} {later : List Act}
    (closes : a.closes k) (discreet : ∀ b ∈ a :: later, b.isDiscreet) :
    (addedIn E m h (a :: later)).Subperm (h.inFlightTo m) := by
  obtain ⟨first, discreet⟩ := List.forall_mem_cons.mp discreet
  obtain ⟨outside, other, nothing⟩ :
      a ≠ .move .drive ∧ a.delivers = false ∧ a.added m h = [] := by
    cases a with
    | openWith callback => cases closes
    | move move => cases move <;> first | exact ⟨by simp, rfl, rfl⟩ | cases closes
  have same : (h.act E a).inFlightTo m = h.inFlightTo m := by
    rw [inFlightTo, inFlight_congr (queued_act E h outside).phase (deliveries_act E h other),
      inFlightTo]
  have severed := (altered_act E h first).severed_of_closes l closes
  rw [addedIn, Run.seen_cons, nothing, List.nil_append, ← same]
  exact (List.sublist_append_left ..).subperm.trans
    (severed.addedIn_append_inFlightTo E later discreet)

/-- After its session is closed, the mailbox that was opened with it gets nothing but what was in
    flight to it when the session was closed. -/
theorem handedIn_of_closed {start : Hub σ} (v : start.Sealed) {acts first middle later : List Act}
    {a : Act} (discreet : ∀ b ∈ acts, b.isDiscreet)
    (few : start.directory.enrolments + acts.countP Act.enrols < Directory.numbers)
    (parts : acts = first ++ .move .openMailbox :: (middle ++ a :: later)) :
    let opened := (afterActs E start first).openMailbox
    let before := first ++ .move .openMailbox :: middle
    a.closes opened.2.1 → ∃ late,
      handedIn E opened.2.2 start acts = handedIn E opened.2.2 start before ++ late ∧
      late.Subperm ((afterActs E start before).inFlightTo opened.2.2) := by
  subst parts
  intro opened before closes
  obtain ⟨discreet₁, rest⟩ := List.forall_mem_append.mp discreet
  obtain ⟨-, rest⟩ := List.forall_mem_cons.mp rest
  obtain ⟨discreet₂, discreet₃⟩ := List.forall_mem_append.mp rest
  rw [List.countP_append] at few
  let h := afterActs E start first
  have sealed_now : h.Sealed := v.acts E discreet₁ (by omega)
  have leads : (afterActs E h.openMailbox.1 middle).Leads h.openMailbox.2.1 h.openMailbox.2.2 :=
    sealed_now.leads_openMailbox.acts E discreet₂
  have last : afterActs E start before = afterActs E h.openMailbox.1 middle := Run.after_append ..
  refine ⟨addedIn E opened.2.2 (afterActs E start before) (a :: later), ?_, ?_⟩
  · rw [← List.cons_append, ← List.append_assoc, handedIn_eq, handedIn_eq, addedIn, Run.seen_append,
      List.append_assoc]
    rfl
  · rw [last]
    exact leads.addedIn_subperm E closes discreet₃

/-- No response is queued for a number from the moment on when the engine was told that it was
    closed. -/
theorem silent_of_told {start : Hub Sources} (v : start.Sealed) {acts : List Act}
    (discreet : ∀ a ∈ acts, a.isDiscreet)
    (few : start.directory.enrolments + acts.countP Act.enrols < Directory.numbers) {id : SessionId}
    (told : .close id ∈ calledIn Sources.engine start acts) :
    (afterActs Sources.engine start acts).Silent id := by
  obtain ⟨first, a, later, rfl, made⟩ := Run.exists_of_mem_seen _ told
  obtain ⟨discreet₁, rest⟩ := List.forall_mem_append.mp discreet
  obtain ⟨now, discreet₂⟩ := List.forall_mem_cons.mp rest
  rw [List.countP_append, List.countP_cons] at few
  have count := enrolments_afterActs Sources.engine start discreet₁
  have sealed_now := v.acts Sources.engine discreet₁ (by omega)
  have last : afterActs Sources.engine start (first ++ a :: later) = _ := Run.after_append ..
  rw [last]
  change Invocation.close id ∈ a.called (afterActs Sources.engine start first) at made
  change (afterActs Sources.engine ((afterActs Sources.engine start first).act _ a) later).Silent id
  generalize afterActs Sources.engine start first = h at made count sealed_now
  have given := (altered_act Sources.engine h now).enrolments_eq
  -- the call is made by a step of the driver
  obtain rfl : a = .move .drive := by
    cases a with
    | openWith callback => cases made
    | move m => cases m <;> first | rfl | cases made
  have calling : h.phase = .calling (.close id) := by
    have made : Invocation.close id ∈ h.inCall := made
    unfold inCall at made
    split at made
    · next call same => rw [same, List.mem_singleton.mp made]
    · cases made
  exact (sealed_now.silent calling (by omega)).acts discreet₂ (by omega)

/-- In every run of a hub that hosts sources, in which requests and closings come from sessions
    (`isDiscreet`) and fewer than `2 ^ 32` numbers are given: what is handed to the mailbox of a
    session from its `close` or `drop` on was in flight to it at that moment (`inFlightTo`), its
    callback looked up and not yet run, by the driver once at most and once for each other delivery
    that was begun (`deliveries`). Once the engine was called with `close id`, no response for `id`
    is queued ever again. This call leaves the responses for other numbers, in order; and of a
    number that no such call was made for, all that was queued at first or was asked for is given or
    still queued, in order. -/
theorem silence_after_close (s : Sources) (mode : Mode) (acts : List Act)
    (discreet : ∀ a ∈ acts, a.isDiscreet) (few : acts.countP Act.enrols < UInt32.size) :
    let start : Hub Sources := { engine := s, mode }
    let h := afterActs Sources.engine start acts
    let calls := calledIn Sources.engine start acts
    (∀ (first middle later : List Act) (a : Act),
      acts = first ++ .move .openMailbox :: (middle ++ a :: later) →
      let opened := (afterActs Sources.engine start first).openMailbox
      let before := first ++ .move .openMailbox :: middle
      let closing := afterActs Sources.engine start before
      a.closes opened.2.1 → ∃ late,
        handedIn Sources.engine opened.2.2 start acts =
          handedIn Sources.engine opened.2.2 start before ++ late ∧
        late.Subperm (closing.inFlightTo opened.2.2) ∧
        late.length ≤ closing.deliveries.length + 1) ∧
    (∀ id, .close id ∈ calls → ∀ r ∈ h.engine.queued, r.session ≠ id) ∧
    (∀ id, h.phase = .calling (.close id) →
      (h.step Sources.engine).engine.queued = h.engine.queued.filter (·.session ≠ id)) ∧
    ∀ id, .close id ∉ calls →
      Response.bytesFor id (Sources.engine.given s calls) ++ Response.bytesFor id h.engine.queued =
        Response.bytesFor id s.queued ++
          (Command.requestsOf id (calls.map Invocation.command)).map s.answer := by
  intro start h calls
  have began : start.Sealed := sealed_start s mode
  have few : start.directory.enrolments + acts.countP Act.enrols < Directory.numbers := by
    rw [show start.directory.enrolments = 0 from rfl, Nat.zero_add]
    exact few
  refine ⟨fun first middle later a parts closes => ?_,
    fun id told => (silent_of_told began discreet few told).queued,
    fun id calling => queued_of_closing calling, fun id untold => ?_⟩
  · obtain ⟨late, handed, flown⟩ :=
      handedIn_of_closed Sources.engine began discreet few parts closes
    exact ⟨late, handed, flown, Nat.le_trans flown.length_le (length_inFlightTo_le ..)⟩
  · have made : h.engine = Sources.engine.after s calls := engine_afterActs ..
    rw [made]
    exact (s.given_append_queued untold).2

/-- A session asks twice and is closed before its answers come, while another one asks too. -/
theorem silence_after_one_close :
    let middle : List Act := [.move .openMailbox, .move (.request 0 [120]),
      .move (.request 1 [121]), .move (.request 0 [122])]
    let later : List Act := List.replicate 12 (.move .drive)
    let acts : List Act := .move .openMailbox :: (middle ++ .move (.close 0) :: later)
    handedIn Sources.engine 0 { engine := {} } acts = [] ∧
    (∀ r ∈ (afterActs Sources.engine { engine := {} } acts).engine.queued, r.session ≠ ⟨1⟩) ∧
    Response.bytesFor ⟨2⟩
          (Sources.engine.given {} (calledIn Sources.engine { engine := {} } acts)) ++
        Response.bytesFor ⟨2⟩ (afterActs Sources.engine { engine := {} } acts).engine.queued =
      [[121]] := by
  intro middle later acts
  obtain ⟨handed, silent, -, kept⟩ :=
    silence_after_close {} .cooperative acts (by decide) (by decide)
  refine ⟨?_, silent ⟨1⟩ (by decide +kernel), ?_⟩
  · obtain ⟨late, all, flown, -⟩ := handed [] middle later (.move (.close 0)) rfl rfl
    have nothing : late = [] := List.subperm_nil.mp (flown.trans (by decide +kernel))
    exact all.trans (by rw [nothing]; decide +kernel)
  · exact (kept ⟨2⟩ (by decide +kernel)).trans (by decide +kernel)

/-- The driver looks up the callback of a session for its answer, the session is closed, and then
    the callback is run. -/
theorem handed_after_close :
    let before : List Act :=
      .move .openMailbox :: .move (.request 0 [120]) :: List.replicate 6 (.move .drive)
    let acts : List Act := before ++ [.move (.close 0), .move .drive]
    (∀ a ∈ acts, a.isDiscreet) ∧
    (afterActs Sources.engine { engine := {} } before).isOpen 0 ∧
    handedIn Sources.engine 0 { engine := {} } before = [] ∧
    handedIn Sources.engine 0 { engine := {} } (before ++ [.move (.close 0)]) = [] ∧
    handedIn Sources.engine 0 { engine := {} } acts = [[120]] := by
  decide +kernel

end Hub

end SessionHub
