import SessionHub.Proofs.Hub.Answering

set_option autoImplicit false

/-! # Traffic through a hub

Sessions put calls in, the driver brings them to the engine and the answers back, and mailboxes are
read. As long as no session is closed and every mailbox is attended, all of this keeps to what is
due (`Sound`), and a call that is on its way gets no farther than into the mailbox of its session
until it is read there. -/

namespace SessionHub.Hub

variable {σ : Type}

/-- Whether a hub with an answering engine, none of whose sessions is closed, carries nothing but
    what is due. -/
structure Sound (E : Engine σ) (f : String → List Json → Json) (kept : σ → List Question)
    (due : Nat → List Exchange) (h : Hub σ) : Prop where
  owned : h.Owned
  directed : h.Directed
  watchful : h.Watchful E
  genuine : h.Genuine f kept due
  served : ∀ k < h.sessions.size, h.isServed k

variable {E : Engine σ} {f : String → List Json → Json} {kept : σ → List Question}
  {due : Nat → List Exchange} {h : Hub σ}

/-! ## Frames -/

theorem Carries.of_more {h' : Hub σ} {k : Nat} {x : Exchange} (c : h.Carries f kept k x)
    (engine : h'.engine = h.engine) (routing : h'.routing = h.routing)
    (commands : ∀ c ∈ h.commands, c ∈ h'.commands)
    (unread : ∀ bytes ∈ h.unread k, bytes ∈ h'.unread k) : h'.Carries f kept k x := by
  rcases c with ⟨bytes, hc, asked⟩ | hq | hr | ⟨bytes, hb, told⟩
  · exact .inl ⟨bytes, commands _ hc, asked⟩
  · exact .inr (.inl (engine ▸ hq))
  · exact .inr (.inr (.inl (routing ▸ hr)))
  · exact .inr (.inr (.inr ⟨bytes, unread bytes hb, told⟩))

namespace Sound

theorem start (A : Answering E f kept) {engine : σ} (empty : kept engine = []) (mode : Mode) :
    ({ engine, mode } : Hub σ).Sound E f kept fun _ => [] where
  owned := owned_start engine mode
  directed := .of_not_delivering nofun
  watchful _ _ := by rw [A.hasPending, empty]; rfl
  genuine := {
    request := by simp [commands]
    kept := by simp [empty]
    routing := by simp [routing]
    unread := by simp [unread] }
  served := by simp

/-- What is done to the log, to handles, to what was delivered, and polls and orders to stop that
    come in, do no harm. -/
theorem of_same (s : h.Sound E f kept due) {h' : Hub σ} (owned : h'.Owned)
    (engine : h'.engine = h.engine) (phase : h'.phase = h.phase)
    (scheduled : h'.pollScheduled = h.pollScheduled) (sessions : h'.sessions = h.sessions)
    (commands : ∀ id bytes, .request id bytes ∈ h'.commands → .request id bytes ∈ h.commands)
    (unread : ∀ k, ∀ bytes ∈ h'.unread k, bytes ∈ h.unread k)
    (attended : ∀ k : Nat, h.mailboxes[k]?.any (·.attended) → h'.mailboxes[k]?.any (·.attended)) :
    h'.Sound E f kept due where
  owned
  directed := s.directed.of_phase phase (Nat.le_of_eq (congrArg Array.size sessions).symm)
    fun k _ _ _ live => by rwa [isOpen, sessions] at live
  watchful := s.watchful.of_same engine scheduled phase
  genuine := {
    request := by
      rw [sessions]
      exact fun id bytes hc => s.genuine.request id bytes (commands id bytes hc)
    kept := by
      rw [engine, sessions]
      exact s.genuine.kept
    routing := by
      rw [Hub.routing, phase, sessions]
      exact s.genuine.routing
    unread := fun k bytes hb => s.genuine.unread k bytes (unread k bytes hb) }
  served := by
    intro k hk
    rw [sessions] at hk
    have served := s.served k hk
    simp only [isServed, Bool.and_eq_true, isOpen, sessions] at served ⊢
    exact ⟨served.1, attended k served.2⟩

/-- More may be due. -/
theorem mono (s : h.Sound E f kept due) {due' : Nat → List Exchange}
    (more : ∀ k, ∀ x ∈ due k, x ∈ due' k) : h.Sound E f kept due' where
  owned := s.owned
  directed := s.directed
  watchful := s.watchful
  genuine := {
    request := by
      intro id bytes hc
      obtain ⟨k, hk, hid, x, hx, asked⟩ := s.genuine.request id bytes hc
      exact ⟨k, hk, hid, x, more k x hx, asked⟩
    kept := by
      intro q hq
      obtain ⟨k, hk, hid, hx⟩ := s.genuine.kept q hq
      exact ⟨k, hk, hid, more k _ hx⟩
    routing := by
      intro r hr
      obtain ⟨k, hk, hid, x, hx, told⟩ := s.genuine.routing r hr
      exact ⟨k, hk, hid, x, more k x hx, told⟩
    unread := by
      intro k bytes hb
      obtain ⟨x, hx, told⟩ := s.genuine.unread k bytes hb
      exact ⟨x, more k x hx, told⟩ }
  served := s.served

theorem noteAll (s : h.Sound E f kept due) (records : List Record) :
    (h.noteAll records).Sound E f kept due :=
  s.of_same (s.owned.of_same rfl rfl rfl fun _ hc => .inr hc) rfl rfl rfl rfl (fun _ _ hc => hc)
    (fun _ _ hb => hb) fun _ attended => attended

theorem retain (s : h.Sound E f kept due) : h.retain.Sound E f kept due :=
  s.of_same (s.owned.of_same rfl rfl rfl fun _ hc => .inr hc) rfl rfl rfl rfl (fun _ _ hc => hc)
    (fun _ _ hb => hb) fun _ attended => attended

theorem letGo (s : h.Sound E f kept due) : h.letGo.Sound E f kept due :=
  s.of_same s.owned.letGo rfl rfl rfl rfl (fun _ _ hc => hc) (fun _ _ hb => hb)
    fun _ attended => attended

/-! ## The driver -/

theorem drive (s : h.Sound E f kept due) (A : Answering E f kept)
    (portable : ∀ k, ∀ x ∈ due k, x.answer.IsPortable) : (h.step E).Sound E f kept due := by
  have opened : ∀ k < h.sessions.size, h.isOpen k :=
    fun k hk => isOpen_of_isServed (s.served k hk)
  exact {
    owned := s.owned.drive E
    directed := .drive E s.owned
    watchful := s.genuine.watchful_step A s.owned opened portable s.watchful
    genuine := s.genuine.step A s.owned opened s.directed portable
    served := by
      intro k hk
      rw [(h.step_frame E).sessions] at hk
      rw [isServed_step]
      exact s.served k hk }

/-! ## Commands -/

/-- A command that is no request, and closes nothing, may come in. -/
theorem send (s : h.Sound E f kept due) {c : Command} (request : ∀ id bytes, c ≠ .request id bytes)
    (close : ∀ id, c ≠ .close id) : (h.send c).1.Sound E f kept due := by
  have owned := s.owned.send c (fun id bytes same => absurd same (request id bytes))
    fun id same => absurd same (close id)
  by_cases running : h.isRunning
  · rw [send_eq running] at owned ⊢
    refine s.of_same owned rfl rfl rfl rfl (fun id bytes hc => ?_) (fun _ _ hb => hb)
      fun _ attended => attended
    rw [h.commands_append, List.mem_append, List.mem_singleton] at hc
    exact hc.resolve_right fun same => request id bytes same.symm
  · rw [send_of_not_running running] at owned ⊢
    exact s.of_same owned rfl rfl rfl rfl (fun _ _ hc => hc) (fun _ _ hb => hb)
      fun _ attended => attended

theorem carries_send {k : Nat} {x : Exchange} (c : h.Carries f kept k x) (command : Command) :
    (h.send command).1.Carries f kept k x := by
  by_cases running : h.isRunning
  · rw [send_eq running]
    refine c.of_more rfl rfl (fun c hc => ?_) fun _ hb => hb
    rw [h.commands_append]
    exact List.mem_append_left _ hc
  · rw [send_of_not_running running]
    exact c.of_more rfl rfl (fun _ hc => hc) fun _ hb => hb

/-! ## Calls -/

theorem request (s : h.Sound E f kept due) {k : Nat} (hk : k < h.sessions.size) {bytes : Bytes}
    {x : Exchange} (hx : x ∈ due k) (asked : x.AskedBy f bytes) :
    ({ h with queue := h.queue ++ [.request (sessionId k) bytes] } : Hub σ).Sound E f kept due := by
  have commands := h.commands_append [.request (sessionId k) bytes]
  exact {
    owned := {
      s.owned with
      asking := by
        intro id bytes' hc
        rw [commands, List.mem_append, List.mem_singleton] at hc
        rcases hc with hc | same
        · exact s.owned.asking id bytes' hc
        · cases same
          exact ⟨k, hk, rfl⟩
      closing := by
        intro id hc
        rw [commands, List.mem_append, List.mem_singleton] at hc
        exact s.owned.closing id (hc.resolve_right nofun) }
    directed := s.directed.of_phase rfl (Nat.le_refl _) fun _ _ _ _ live => live
    watchful := s.watchful.of_same rfl rfl rfl
    genuine := {
      request := by
        intro id bytes' hc
        rw [commands, List.mem_append, List.mem_singleton] at hc
        rcases hc with hc | same
        · exact s.genuine.request id bytes' hc
        · cases same
          exact ⟨k, hk, rfl, x, hx, asked⟩
      kept := s.genuine.kept
      routing := s.genuine.routing
      unread := s.genuine.unread }
    served := s.served }

/-- A payload is sent as a request and a poll. -/
theorem sendPayload_eq (o : h.Owned) {k : Nat} (live : h.isOpen k) (running : h.isRunning)
    (p : Payload) :
    h.sendPayload k p =
      ((({ h with queue := h.queue ++ [.request (sessionId k) p.bytes] } : Hub σ).send .poll).1,
        .ok ()) := by
  have requested : h.request k p.bytes =
      ({ h with queue := h.queue ++ [.request (sessionId k) p.bytes] }, .ok ()) := by
    rw [Hub.request, o.sendFor_eq, if_pos live, send_eq running]
  have o' := o.request k p.bytes
  rw [requested] at o'
  have live' : ({ h with queue := h.queue ++ [.request (sessionId k) p.bytes] } : Hub σ).isOpen k :=
    live
  have running' :
      ({ h with queue := h.queue ++ [.request (sessionId k) p.bytes] } : Hub σ).isRunning := running
  simp only [sendPayload, requested, Hub.poll, o'.sendFor_eq, live', if_true, send_eq running']

theorem sendPayload (s : h.Sound E f kept due) (running : h.isRunning) {k : Nat}
    (hk : k < h.sessions.size) {p : Payload} {x : Exchange} (hx : x ∈ due k)
    (asked : x.AskedBy f p.bytes) :
    (h.sendPayload k p).2 = .ok () ∧ (h.sendPayload k p).1.Sound E f kept due ∧
      (h.sendPayload k p).1.sessions = h.sessions ∧ (h.sendPayload k p).1.Carries f kept k x ∧
      ∀ j y, h.Carries f kept j y → (h.sendPayload k p).1.Carries f kept j y := by
  rw [sendPayload_eq s.owned (isOpen_of_isServed (s.served k hk)) running]
  have commands := h.commands_append [.request (sessionId k) p.bytes]
  have running' :
      ({ h with queue := h.queue ++ [.request (sessionId k) p.bytes] } : Hub σ).isRunning := running
  refine ⟨rfl, (s.request hk hx asked).send nofun nofun, ?_, carries_send ?_ _,
    fun j y c => carries_send ?_ _⟩
  · rw [send_eq running']
  · refine .inl ⟨p.bytes, ?_, asked⟩
    rw [commands]
    exact List.mem_append_right _ (List.mem_singleton.mpr rfl)
  · refine c.of_more rfl rfl (fun c hc => ?_) fun _ hb => hb
    rw [commands]
    exact List.mem_append_left _ hc

/-! ## Sessions and mailboxes -/

theorem openMailbox (s : h.Sound E f kept due) (few : h.sessions.size + 1 < UInt32.size) :
    h.openMailbox.1.Sound E f kept due ∧
      ∀ k x, h.Carries f kept k x → h.openMailbox.1.Carries f kept k x := by
  have size : h.openMailbox.1.sessions.size = h.sessions.size + 1 := Array.size_push _
  have later : ∀ {k}, k < h.sessions.size → k < h.openMailbox.1.sessions.size := by
    intro k hk
    rw [size]
    exact Nat.lt_succ_of_lt hk
  have unread : ∀ k, h.openMailbox.1.unread k = h.unread k := by
    intro k
    have nothing := taken_append_unread E h .openMailbox k
    simpa [Move.taken, Move.added, move] using nothing
  refine ⟨?_, fun k x c => c.of_more rfl rfl (fun _ hc => hc) fun bytes hb => unread k ▸ hb⟩
  exact {
    owned := s.owned.openMailbox few
    directed := s.directed.openMailbox few fun r hr => by
      obtain ⟨k, hk, hid, -⟩ := s.genuine.routing r hr
      exact ⟨k, hk, hid⟩
    watchful := s.watchful.of_same rfl rfl rfl
    genuine := {
      request := by
        intro id bytes hc
        obtain ⟨k, hk, hid, hx⟩ := s.genuine.request id bytes hc
        exact ⟨k, later hk, hid, hx⟩
      kept := by
        intro q hq
        obtain ⟨k, hk, hid, hx⟩ := s.genuine.kept q hq
        exact ⟨k, later hk, hid, hx⟩
      routing := by
        intro r hr
        obtain ⟨k, hk, hid, hx⟩ := s.genuine.routing r hr
        exact ⟨k, later hk, hid, hx⟩
      unread := by
        intro k bytes hb
        rw [unread] at hb
        exact s.genuine.unread k bytes hb }
    served := by
      intro k hk
      have pushed : h.openMailbox.1.mailboxes[k]? =
          if k = h.sessions.size then some {} else h.mailboxes[k]? := by
        show (h.mailboxes.push _)[k]? = _
        rw [Array.getElem?_push, s.owned.mailboxes]
      rw [size] at hk
      rw [isServed_iff, Owned.isOpen_openMailbox, pushed]
      by_cases last : k = h.sessions.size
      · exact ⟨.inr last, by rw [if_pos last]; rfl⟩
      · have served := s.served k (by omega)
        rw [isServed_iff] at served
        rw [if_neg last]
        exact ⟨.inl served.1, served.2⟩ }

/-- A delivery is read: it belongs to what is due, and it was all of the exchange it belongs to that
    was on its way. -/
theorem read (s : h.Sound E f kept due) {k : Nat} {bytes : Bytes} {rest : List Bytes}
    (some_left : h.unread k = bytes :: rest) :
    ∃ h', h.read? k = some (bytes, h') ∧ h'.Sound E f kept due ∧ h'.sessions = h.sessions ∧
      h'.isRunning = h.isRunning ∧ (∃ x ∈ due k, x.ToldBy bytes) ∧
      ∀ j y, h.Carries f kept j y → h'.Carries f kept j y ∨ j = k ∧ y.ToldBy bytes := by
  have left : ∀ j, ({ h with
      mailboxes := h.mailboxes.modify k fun m => { m with unread := rest } } : Hub σ).unread j =
        if k = j then rest else h.unread j := by
    intro j
    refine h.unread_modify k j _ (fun _ _ => rfl) fun hm => ?_
    rw [unread_of_none hm] at some_left
    cases some_left
  refine ⟨_, read?_of_cons some_left, ?_, rfl, rfl, ?_, fun j y c => ?_⟩
  · have owned := s.owned.read k
    rw [read?_of_cons some_left] at owned
    refine s.of_same owned rfl rfl rfl rfl (fun _ _ hc => hc) (fun j bytes' hb => ?_) fun j attended => ?_
    · rw [left] at hb
      split at hb
      · next hkj =>
        rw [← hkj, some_left]
        exact List.mem_cons_of_mem _ hb
      · exact hb
    · simp only [Array.getElem?_modify]
      cases hm : h.mailboxes[j]? with
      | none => simp [hm] at attended
      | some m =>
        rw [hm] at attended
        split <;> exact attended
  · refine s.genuine.unread k bytes ?_
    rw [some_left]
    exact List.mem_cons_self
  · rcases c with hc | hq | hr | ⟨bytes', hb, told⟩
    · exact .inl (.inl hc)
    · exact .inl (.inr (.inl hq))
    · exact .inl (.inr (.inr (.inl hr)))
    · by_cases hkj : k = j
      · -- if what was on its way is the delivery that is read, it is not any more
        subst hkj
        rw [some_left] at hb
        rcases List.mem_cons.mp hb with rfl | hb
        · exact .inr ⟨rfl, told⟩
        · refine .inl (.inr (.inr (.inr ⟨bytes', ?_, told⟩)))
          rw [left, if_pos rfl]
          exact hb
      · refine .inl (.inr (.inr (.inr ⟨bytes', ?_, told⟩)))
        rw [left, if_neg hkj]
        exact hb

/-! ## Rest -/

/-- A hub whose driver waits for a command, and all of whose mailboxes are empty, carries
    nothing. -/
theorem carries_nothing (s : h.Sound E f kept due) (A : Answering E f kept) (ready : h.phase = .ready)
    (blocked : h.isBlocked) {k : Nat} (empty : h.unread k = []) (x : Exchange) :
    ¬ h.Carries f kept k x := by
  have idle := s.watchful.hasPending_of_blocked ready blocked
  rw [A.hasPending, Option.some.injEq, Bool.not_eq_false', List.isEmpty_iff] at idle
  simp only [isBlocked, Bool.and_eq_true, List.isEmpty_iff] at blocked
  rintro (⟨bytes, hc, -⟩ | ⟨q, hq, -⟩ | ⟨r, hr, -⟩ | ⟨bytes, hb, -⟩)
  · rw [commands_of_ready ready, blocked.1.1] at hc
    cases hc
  · rw [idle] at hq
    cases hq
  · rw [routing, ready] at hr
    cases hr
  · rw [empty] at hb
    cases hb

end Sound

end SessionHub.Hub
