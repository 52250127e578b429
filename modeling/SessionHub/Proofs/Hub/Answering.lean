import SessionHub.Proofs.Envelope.RoundTrip
import SessionHub.Proofs.Hub.Delivery

set_option autoImplicit false

/-! # Engines that answer calls

An engine of this kind keeps the method calls that it gets and answers each of them in some later
poll, in any order and any number at a time (`Answering`). In a hub with such an engine a call that
has come in is always somewhere: as a request that waits for the driver, with the engine, or as an
answer that is being handed out or lies in the mailbox (`Carries`). Nothing else goes through the
hub (`Genuine`). -/

namespace SessionHub

/-! ## Calls and their answers -/

/-- A method call that an engine keeps. -/
structure Question where
  session : SessionId
  id : MessageId
  call : MethodCall

/-- The identity of a call and the data that answers it. -/
structure Exchange where
  id : MessageId
  data : Json

/-- The envelope that answers a call. -/
def Exchange.answer (x : Exchange) : Envelope :=
  .response (some x.id) x.data

/-- A kept call and its answer, where `f` says what is answered. -/
def Question.exchange (f : String → List Json → Json) (q : Question) : Exchange :=
  ⟨q.id, f q.call.method q.call.args⟩

/-- Whether some bytes are the call of an exchange. -/
def Exchange.AskedBy (f : String → List Json → Json) (bytes : Bytes) (x : Exchange) : Prop :=
  ∃ call, Envelope.read bytes = .ok (.viewerMethod (some x.id) call) ∧
    f call.method call.args = x.data

/-- Whether some bytes are the answer of an exchange. -/
def Exchange.ToldBy (bytes : Bytes) (x : Exchange) : Prop :=
  Envelope.read bytes = .ok x.answer

/-- Whether a response answers a kept call: it is for the session from which the call came, and it
    is the answer, in whatever text, if answers like this can be read at all. -/
def Question.AnsweredBy (f : String → List Json → Json) (r : Response) (q : Question) : Prop :=
  r.session = q.session ∧ ((q.exchange f).answer.IsPortable → (q.exchange f).ToldBy r.bytes)

/-- The response to a call whose text is that of its answer. -/
def Question.response (f : String → List Json → Json) (q : Question) : Response :=
  ⟨q.session, (q.exchange f).answer.write⟩

theorem Question.answeredBy_response (f : String → List Json → Json) (q : Question) :
    q.AnsweredBy f (q.response f) :=
  ⟨rfl, Envelope.read_write⟩

/-- What an engine does that answers calls by `f` and keeps those that it has still to answer. -/
structure Answering {σ : Type} (E : Engine σ) (f : String → List Json → Json)
    (kept : σ → List Question) : Prop where
  /-- A call is kept, and nothing is said to it yet. -/
  request : ∀ s session bytes id call, Envelope.read bytes = .ok (.viewerMethod (some id) call) →
    (E.request s session bytes).result = some [] ∧
      (kept (E.request s session bytes).state).Perm (⟨session, id, call⟩ :: kept s)
  /-- Some of the calls are answered, each once, and are then kept no longer. -/
  poll : ∀ s, ∃ out : List (Question × Response), (E.poll s).result = some (out.map (·.2)) ∧
    (∀ p ∈ out, p.1.AnsweredBy f p.2) ∧ (kept s).Perm (out.map (·.1) ++ kept (E.poll s).state)
  hasPending : ∀ s, E.hasPending s = some (!(kept s).isEmpty)

/-- An engine that keeps calls, the latest first, and answers `batch` of them in a poll. -/
def attendant (f : String → List Json → Json) (batch : Nat) : Engine (List Question) where
  request s session bytes :=
    match Envelope.read bytes with
    | .ok (.viewerMethod (some id) call) => { state := ⟨session, id, call⟩ :: s, result := some [] }
    | _ => { state := s, result := some [] }
  poll s := { state := s.drop batch, result := some ((s.take batch).map (Question.response f)) }
  hasPending s := some (!s.isEmpty)
  close s session := { state := s.filter (·.session ≠ session), result := some () }

theorem answering_attendant (f : String → List Json → Json) (batch : Nat) :
    Answering (attendant f batch) f id where
  request s session bytes id call read := by
    simp only [attendant, read]
    exact ⟨trivial, .refl _⟩
  poll s := by
    refine ⟨(s.take batch).map fun q => (q, q.response f), ?_, fun p hp => ?_, ?_⟩
    · simp [attendant, Function.comp_def]
    · obtain ⟨q, -, rfl⟩ := List.mem_map.mp hp
      exact q.answeredBy_response f
    · have same : ((s.take batch).map fun q => (q, q.response f)).map (·.1) = s.take batch := by
        simp [Function.comp_def]
      show s.Perm (_ ++ s.drop batch)
      rw [same, List.take_append_drop]
  hasPending _ := rfl

namespace Hub

variable {σ : Type} {E : Engine σ} {f : String → List Json → Json} {kept : σ → List Question}

/-- Whether all that goes through a hub belongs to exchanges that are due, where `due k` are those
    of session `k`. -/
structure Genuine (f : String → List Json → Json) (kept : σ → List Question)
    (due : Nat → List Exchange) (h : Hub σ) : Prop where
  request : ∀ id bytes, .request id bytes ∈ h.commands →
    ∃ k < h.sessions.size, id = sessionId k ∧ ∃ x ∈ due k, x.AskedBy f bytes
  kept : ∀ q ∈ kept h.engine,
    ∃ k < h.sessions.size, q.session = sessionId k ∧ q.exchange f ∈ due k
  routing : ∀ r ∈ h.routing,
    ∃ k < h.sessions.size, r.session = sessionId k ∧ ∃ x ∈ due k, x.ToldBy r.bytes
  unread : ∀ k, ∀ bytes ∈ h.unread k, ∃ x ∈ due k, x.ToldBy bytes

/-- Whether an exchange of session `k` is on its way through a hub. -/
def Carries (f : String → List Json → Json) (kept : σ → List Question) (h : Hub σ) (k : Nat)
    (x : Exchange) : Prop :=
  (∃ bytes, .request (sessionId k) bytes ∈ h.commands ∧ x.AskedBy f bytes) ∨
  (∃ q ∈ kept h.engine, q.session = sessionId k ∧ q.exchange f = x) ∨
  (∃ r ∈ h.routing, r.session = sessionId k ∧ x.ToldBy r.bytes) ∨
  ∃ bytes ∈ h.unread k, x.ToldBy bytes

/-- A call that the driver waits for is a request with a due exchange, or a poll, as long as no
    session is closed. -/
theorem Genuine.calling_cases {due : Nat → List Exchange} {h : Hub σ}
    (g : h.Genuine f kept due) (o : h.Owned) (opened : ∀ k < h.sessions.size, h.isOpen k)
    {call : Invocation} (calling : h.phase = .calling call) :
    call = .poll ∨ ∃ k < h.sessions.size, ∃ bytes id c,
      call = .request (sessionId k) bytes ∧
        Envelope.read bytes = .ok (.viewerMethod (some id) c) ∧
        (⟨id, f c.method c.args⟩ : Exchange) ∈ due k := by
  have first : call.command ∈ h.commands := by
    rw [commands_of_calling calling]
    exact List.mem_cons_self
  cases call with
  | poll => exact .inl rfl
  | request id bytes =>
    obtain ⟨k, hk, rfl, ⟨id, data⟩, hx, c, read, rfl⟩ := g.request id bytes first
    exact .inr ⟨k, hk, bytes, id, c, rfl, read, hx⟩
  | close id =>
    obtain ⟨k, hk, -, closed⟩ := o.closing id first
    exact absurd (opened k hk) closed

/-! ## Steps of the driver -/

section Steps

variable {due : Nat → List Exchange} {h : Hub σ}

theorem invoke_request (A : Answering E f kept) (s : σ) (session : SessionId) {bytes : Bytes}
    {id : MessageId} {call : MethodCall}
    (read : Envelope.read bytes = .ok (.viewerMethod (some id) call)) :
    (E.invoke s (.request session bytes)).result = some ⟨[], some true⟩ ∧
      (kept (E.invoke s (.request session bytes)).state).Perm (⟨session, id, call⟩ :: kept s) := by
  obtain ⟨result, state⟩ := A.request s session bytes id call read
  refine ⟨?_, state⟩
  simp only [Engine.invoke, result, Option.map_some]

theorem invoke_poll (A : Answering E f kept) (s : σ) :
    ∃ (out : List (Question × Response)) (again : Bool),
      (E.invoke s .poll).result = some ⟨out.map (·.2), some again⟩ ∧
      (∀ p ∈ out, p.1.AnsweredBy f p.2) ∧
      (kept s).Perm (out.map (·.1) ++ kept (E.invoke s .poll).state) := by
  obtain ⟨out, result, answers, state⟩ := A.poll s
  refine ⟨out, !(kept (E.poll s).state).isEmpty, ?_, answers, state⟩
  simp only [Engine.invoke, result, Option.bind_some, A.hasPending, Option.map_some]

/-- A call that the driver waits for comes back. What the engine then keeps, and what it gives,
    belongs to exchanges that are due. -/
theorem Genuine.call_answers (A : Answering E f kept) (g : h.Genuine f kept due) (o : h.Owned)
    (opened : ∀ k < h.sessions.size, h.isOpen k)
    (portable : ∀ k, ∀ x ∈ due k, x.answer.IsPortable) {call : Invocation}
    (calling : h.phase = .calling call) :
    ∃ answer, (E.invoke h.engine call).result = some answer ∧
      (∀ q ∈ kept (E.invoke h.engine call).state,
        ∃ k < h.sessions.size, q.session = sessionId k ∧ q.exchange f ∈ due k) ∧
      ∀ r ∈ answer.responses,
        ∃ k < h.sessions.size, r.session = sessionId k ∧ ∃ x ∈ due k, x.ToldBy r.bytes := by
  rcases g.calling_cases o opened calling with rfl | ⟨k, hk, bytes, id, c, rfl, read, hx⟩
  · -- a poll hands out some of the calls that are kept
    obtain ⟨out, again, result, answers, state⟩ := invoke_poll A h.engine
    refine ⟨_, result, fun q hq => ?_, fun r hr => ?_⟩
    · exact g.kept q (state.mem_iff.mpr (List.mem_append_right _ hq))
    · obtain ⟨p, hp, rfl⟩ := List.mem_map.mp hr
      obtain ⟨same, told⟩ := answers p hp
      have was : p.1 ∈ kept h.engine :=
        state.mem_iff.mpr (List.mem_append_left _ (List.mem_map_of_mem hp))
      obtain ⟨k, hk, hid, hx⟩ := g.kept p.1 was
      exact ⟨k, hk, same.trans hid, _, hx, told (portable k _ hx)⟩
  · -- a request is one more call that is kept
    obtain ⟨result, state⟩ := invoke_request A h.engine (sessionId k) read
    refine ⟨_, result, fun q hq => ?_, nofun⟩
    rcases List.mem_cons.mp (state.mem_iff.mp hq) with rfl | hq
    · exact ⟨k, hk, rfl, hx⟩
    · exact g.kept q hq

theorem Genuine.watchful_step (A : Answering E f kept) (g : h.Genuine f kept due) (o : h.Owned)
    (opened : ∀ k < h.sessions.size, h.isOpen k)
    (portable : ∀ k, ∀ x ∈ due k, x.answer.IsPortable) (w : h.Watchful E) :
    (h.step E).Watchful E := by
  refine w.step (fun call calling => ?_) fun id calling => ?_
  · obtain ⟨answer, result, -⟩ := g.call_answers A o opened portable calling
    simp [result]
  · rcases g.calling_cases o opened calling with same | ⟨k, -, bytes, id, c, same, -⟩ <;> cases same

/-- What the driver hands out was a response for this very session. -/
theorem Genuine.unread_step (g : h.Genuine f kept due) (o : h.Owned) (l : h.Directed) (k : Nat)
    (bytes : Bytes) (hb : bytes ∈ (h.step E).unread k) : ∃ x ∈ due k, x.ToldBy bytes := by
  rw [Hub.unread_step, List.mem_append] at hb
  rcases hb with hb | hb
  · exact g.unread k bytes hb
  · unfold handing at hb
    split at hb
    · next d rest delivering =>
      obtain ⟨j, hj, hid, x, hx, told⟩ := g.routing d.response (by
        rw [routing_of_delivering delivering]
        exact List.mem_cons_self)
      unfold delivered at hb
      split at hb
      · next leads =>
        obtain ⟨session, hk⟩ := l.owner d rest k delivering leads.1
        have same : sessionId j = sessionId k := hid.symm.trans session
        obtain rfl := o.sessionId_inj hj hk same
        cases List.mem_singleton.mp hb
        exact ⟨x, hx, told⟩
      · cases hb
    · cases hb

/-- The driver takes a step, and what it finds or makes of it is genuine. -/
theorem Genuine.step (A : Answering E f kept) (g : h.Genuine f kept due) (o : h.Owned)
    (opened : ∀ k < h.sessions.size, h.isOpen k)
    (l : h.Directed) (portable : ∀ k, ∀ x ∈ due k, x.answer.IsPortable) :
    (h.step E).Genuine f kept due := by
  have size : (h.step E).sessions.size = h.sessions.size :=
    congrArg Array.size (h.step_frame E).sessions
  have unread := g.unread_step (E := E) o l
  cases h.stepped E with
  | quiet engine mailboxes running before routing commands =>
    refine ⟨fun id bytes hc => ?_, ?_, ?_, unread⟩
    · rw [size]
      rcases commands with commands | ⟨-, commands⟩ <;> rw [commands] at hc
      · exact g.request id bytes hc
      · cases List.mem_singleton.mp hc
    · rw [engine, size]
      exact g.kept
    · rw [routing, size]
      exact g.routing
  | stopped engine mailboxes running before routing commands =>
    refine ⟨?_, ?_, ?_, unread⟩
    · rw [commands]
      nofun
    · rw [engine, size]
      exact g.kept
    · rw [routing]
      nofun
  | answered call answer calling result engine mailboxes running before routing commands =>
    obtain ⟨answer', result', keeps, gives⟩ := g.call_answers A o opened portable calling
    rw [result'] at result
    cases Option.some.inj result
    refine ⟨fun id bytes hc => ?_, ?_, ?_, unread⟩
    · rw [size]
      refine g.request id bytes ?_
      rw [commands]
      exact List.mem_cons_of_mem _ hc
    · rw [engine, size]
      exact keeps
    · rw [routing, size]
      exact gives
  | panicked call calling result =>
    obtain ⟨answer, result', -⟩ := g.call_answers A o opened portable calling
    rw [result'] at result
    cases result
  | routed d delivering engine mailboxesSize mailboxes running commands =>
    refine ⟨?_, ?_, fun r hr => ?_, unread⟩
    · rw [commands, size]
      exact g.request
    · rw [engine, size]
      exact g.kept
    · rw [size]
      refine g.routing r ?_
      rw [routing_of_delivering delivering]
      exact List.mem_cons_of_mem _ hr

/-- A call comes back. An exchange that it was about, or that the engine kept, is now kept or
    answered. -/
theorem Genuine.call_carries (A : Answering E f kept) (g : h.Genuine f kept due) (o : h.Owned)
    (opened : ∀ k < h.sessions.size, h.isOpen k)
    (portable : ∀ k, ∀ x ∈ due k, x.answer.IsPortable) {call : Invocation}
    (calling : h.phase = .calling call) {answer : Answer}
    (result : (E.invoke h.engine call).result = some answer) {k : Nat} {x : Exchange}
    (c : (∃ bytes, call = .request (sessionId k) bytes ∧ x.AskedBy f bytes) ∨
      ∃ q ∈ kept h.engine, q.session = sessionId k ∧ q.exchange f = x) :
    (∃ q ∈ kept (E.invoke h.engine call).state, q.session = sessionId k ∧ q.exchange f = x) ∨
      ∃ r ∈ answer.responses, r.session = sessionId k ∧ x.ToldBy r.bytes := by
  rcases g.calling_cases o opened calling with rfl | ⟨j, hj, bytes, id, c', rfl, read, -⟩
  · obtain ⟨out, again, result', answers, state⟩ := invoke_poll A h.engine
    rw [result'] at result
    cases Option.some.inj result
    rcases c with ⟨bytes, same, -⟩ | ⟨q, hq, hid, rfl⟩
    · cases same
    · rcases List.mem_append.mp (state.mem_iff.mp hq) with hq' | hq'
      · obtain ⟨p, hp, rfl⟩ := List.mem_map.mp hq'
        obtain ⟨same, told⟩ := answers p hp
        obtain ⟨i, -, -, hx⟩ := g.kept p.1 hq
        exact .inr ⟨p.2, List.mem_map_of_mem hp, same.trans hid, told (portable i _ hx)⟩
      · exact .inl ⟨q, hq', hid, rfl⟩
  · obtain ⟨-, state⟩ := invoke_request A h.engine (sessionId j) read
    rcases c with ⟨bytes', same, c, read', data⟩ | ⟨q, hq, hid, rfl⟩
    · simp only [Invocation.request.injEq] at same
      obtain ⟨hid, rfl⟩ := same
      rw [read] at read'
      cases read'
      refine .inl ⟨⟨sessionId j, x.id, c'⟩, state.mem_iff.mpr List.mem_cons_self, hid, ?_⟩
      rw [Question.exchange, data]
    · exact .inl ⟨q, state.mem_iff.mpr (List.mem_cons_of_mem _ hq), hid, rfl⟩

/-- The driver takes a step, unless it stops, and what was on its way still is. -/
theorem Carries.step (A : Answering E f kept) (g : h.Genuine f kept due) (o : h.Owned)
    (l : h.Directed) (served : ∀ k < h.sessions.size, h.isServed k)
    (portable : ∀ k, ∀ x ∈ due k, x.answer.IsPortable) (still : (h.step E).isRunning) {k : Nat}
    (hk : k < h.sessions.size) {x : Exchange} (c : h.Carries f kept k x) :
    (h.step E).Carries f kept k x := by
  have opened : ∀ k < h.sessions.size, h.isOpen k := fun k hk => isOpen_of_isServed (served k hk)
  have unread : ∀ bytes ∈ h.unread k, bytes ∈ (h.step E).unread k := by
    intro bytes hb
    rw [Hub.unread_step]
    exact List.mem_append_left _ hb
  cases h.stepped E with
  | quiet engine mailboxes running before routing commands =>
    rcases c with ⟨bytes, hc, asked⟩ | hq | hr | ⟨bytes, hb, told⟩
    · refine .inl ⟨bytes, ?_, asked⟩
      rcases commands with commands | ⟨nothing, -⟩
      · rw [commands]
        exact hc
      · rw [nothing] at hc
        cases hc
    · rw [← engine] at hq
      exact .inr (.inl hq)
    · rw [← routing] at hr
      exact .inr (.inr (.inl hr))
    · exact .inr (.inr (.inr ⟨bytes, unread bytes hb, told⟩))
  | stopped engine mailboxes running =>
    rw [running] at still
    cases still
  | answered call answer calling result engine mailboxes running before routing commands =>
    have called := fun c => g.call_carries A o opened portable calling result (x := x) (k := k) c
    rw [← engine, ← routing] at called
    rcases c with ⟨bytes, hc, asked⟩ | hq | ⟨r, hr, -⟩ | ⟨bytes, hb, told⟩
    · rw [commands] at hc
      rcases List.mem_cons.mp hc with same | hc
      · -- the call that has come back is this very request
        have same' : call = .request (sessionId k) bytes := by
          cases call <;> cases same
          rfl
        exact .inr ((called (.inl ⟨bytes, same', asked⟩)).imp_right .inl)
      · exact .inl ⟨bytes, hc, asked⟩
    · exact .inr ((called (.inr hq)).imp_right .inl)
    · rw [before] at hr
      cases hr
    · exact .inr (.inr (.inr ⟨bytes, unread bytes hb, told⟩))
  | panicked call calling result =>
    obtain ⟨answer, result', -⟩ := g.call_answers A o opened portable calling
    rw [result'] at result
    cases result
  | routed d delivering engine size mailboxes running commands =>
    rcases c with ⟨bytes, hc, asked⟩ | hq | ⟨r, hr, hid, told⟩ | ⟨bytes, hb, told⟩
    · rw [← commands] at hc
      exact .inl ⟨bytes, hc, asked⟩
    · rw [← engine] at hq
      exact .inr (.inl hq)
    · rw [routing_of_delivering delivering] at hr
      rcases List.mem_cons.mp hr with rfl | hr
      · -- it is handed out in this step
        refine .inr (.inr (.inr ⟨d.bytes, ?_, told⟩))
        rw [Hub.unread_step, l.handing_of_served (served k hk), passing_of_delivering delivering,
          Response.bytesFor_cons, if_pos hid]
        exact List.mem_append_right _ List.mem_cons_self
      · exact .inr (.inr (.inl ⟨r, hr, hid, told⟩))
    · exact .inr (.inr (.inr ⟨bytes, unread bytes hb, told⟩))

end Steps

end Hub

end SessionHub
