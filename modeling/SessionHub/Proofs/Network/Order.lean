import SessionHub.Proofs.Network.Clients

set_option autoImplicit false

/-! # Networks in order

In a live network with an engine that answers calls, all that the hub carries and all that waits at
the clients belongs to calls that were accepted (`Network.Sound`). Each move keeps it so
(`Sound.move`). That identities of different clients coincide does no harm, since the hub tells
clients apart by their sessions. -/

namespace SessionHub.Network

variable {σ : Type}

/-- Whether the envelope of a call and that of its answer get over as they are, where `f` says what
    is answered. -/
def Move.IsPortable (f : String → List Json → Json) : Move → Prop
  | .call _ method args named => ∀ id, (Envelope.call id method args named).IsPortable ∧
      (Exchange.answer ⟨id, f method (allArgs args named)⟩).IsPortable
  | _ => True

/-- Whether a network is in order, where `due k` are the exchanges of client `k`, which has issued
    `calls k` calls. -/
structure Sound (E : Engine σ) (f : String → List Json → Json) (kept : σ → List Question)
    (due : Nat → List Exchange) (calls : Nat → Nat) (n : Network σ Local) : Prop where
  hub : n.hub.Sound E f kept due
  sessions : n.hub.sessions.size = n.members.size
  member : ∀ (k : Nat) (c : Client), n.members[k]? = some c →
    c.Sound f kept n.hub k (due k) (calls k)
  absent : ∀ k, n.members.size ≤ k → due k = []
  portable : ∀ k, ∀ x ∈ due k, x.answer.IsPortable

namespace Sound

variable {E : Engine σ} {f : String → List Json → Json} {kept : σ → List Question}
  {due : Nat → List Exchange} {calls : Nat → Nat} {n n' : Network σ Local} {k : Nat} {c : Client}

theorem start (A : Answering E f kept) {engine : σ} (empty : kept engine = []) (mode : Mode) :
    ({ hub := { engine, mode } } : Network σ Local).Sound E f kept (fun _ => []) fun _ => 0 where
  hub := .start A empty mode
  sessions := rfl
  member := by simp
  absent _ _ := rfl
  portable := by simp

theorem lt_sessions (s : n.Sound E f kept due calls) (hc : n.members[k]? = some c) :
    k < n.hub.sessions.size := by
  rw [s.sessions]
  exact (Array.getElem?_eq_some_iff.mp hc).1

theorem of_more_calls (s : n.Sound E f kept due calls) {calls' : Nat → Nat}
    (more : ∀ j, calls j ≤ calls' j) : n.Sound E f kept due calls' :=
  { s with member := fun k c hc => (s.member k c hc).of_carries (fun _ => id) (more k) }

/-- The hub may change as long as it forgets nothing. -/
theorem withHub (s : n.Sound E f kept due calls) (members : n'.members = n.members)
    (hub : n'.hub.Sound E f kept due) (sessions : n'.hub.sessions = n.hub.sessions)
    (carries : ∀ j < n.hub.sessions.size, ∀ y, n.hub.Carries f kept j y →
      n'.hub.Carries f kept j y) : n'.Sound E f kept due calls where
  hub
  sessions := by rw [sessions, members, s.sessions]
  member := by
    intro k c hc
    rw [members] at hc
    exact (s.member k c hc).of_carries (carries k (s.lt_sessions hc)) (Nat.le_refl _)
  absent := by
    rw [members]
    exact s.absent
  portable := s.portable

/-- One member may change, and what is due to it, as long as the hub forgets nothing of the
    others. -/
theorem withMember (s : n.Sound E f kept due calls) (hc : n.members[k]? = some c) {c' : Client}
    (members : n'.members = n.members.set! k c') {due' : Nat → List Exchange} {calls' : Nat → Nat}
    (hub : n'.hub.Sound E f kept due') (sessions : n'.hub.sessions = n.hub.sessions)
    (carries : ∀ j y, j ≠ k → n.hub.Carries f kept j y → n'.hub.Carries f kept j y)
    (others : ∀ j, j ≠ k → due' j = due j) (more : ∀ j, calls j ≤ calls' j)
    (portable : ∀ x ∈ due' k, x.answer.IsPortable)
    (member : c'.Sound f kept n'.hub k (due' k) (calls' k)) :
    n'.Sound E f kept due' calls' where
  hub
  sessions := by simp [sessions, members, s.sessions]
  member := by
    intro j d hd
    rw [members, members_set hc] at hd
    by_cases hkj : k = j
    · subst hkj
      rw [if_pos rfl] at hd
      cases hd
      exact member
    · have other := Ne.symm hkj
      rw [if_neg hkj] at hd
      rw [others j other]
      exact (s.member j d hd).of_carries (fun y => carries j y other) (more j)
  absent := by
    intro j outside
    simp only [members, Array.set!_eq_setIfInBounds, Array.size_setIfInBounds] at outside
    have inside : k < n.members.size := (Array.getElem?_eq_some_iff.mp hc).1
    rw [others j (by omega)]
    exact s.absent j outside
  portable := by
    intro j
    by_cases hjk : j = k
    · exact hjk ▸ portable
    · rw [others j hjk]
      exact s.portable j

/-! ## Moves -/

theorem connect (s : n.Sound E f kept due calls) (few : n.members.size + 1 < UInt32.size) :
    (n.connect true).1.Sound E f kept due calls := by
  have few' : n.hub.sessions.size + 1 < UInt32.size := by rwa [s.sessions]
  obtain ⟨hub, carries⟩ := s.hub.openMailbox few'
  have size : (n.connect true).1.hub.sessions.size = n.hub.sessions.size + 1 := Array.size_push _
  have members : (n.connect true).1.members = n.members.push
      { session := n.hub.sessions.size, mailbox := n.hub.mailboxes.size, role := {} } := rfl
  exact {
    hub
    sessions := by simp [size, members, s.sessions]
    member := by
      intro k c hc
      rw [members, Array.getElem?_push] at hc
      split at hc
      · next last =>
        cases hc
        rw [s.hub.owned.mailboxes, s.sessions, ← last, s.absent k (Nat.le_of_eq last.symm)]
        exact .start f kept _ k (calls k)
      · exact (s.member k c hc).of_carries (carries k) (Nat.le_refl _)
    absent := by
      intro k outside
      simp only [members, Array.size_push] at outside
      exact s.absent k (by omega)
    portable := s.portable }

/-- A holder of a client, or of a ticket of it, makes a move. -/
theorem owned (s : n.Sound E f kept due calls) {m : Move} {a : Caller.Move}
    (hm : m.owned? = some (k, a)) (apart : a.touchesSends = false) (live : (n.move E m).Live)
    (few : calls k < UInt64.size) : (n.move E m).Sound E f kept due calls := by
  cases hc : n.members[k]? with
  | none =>
    obtain ⟨hub, members⟩ := move_of_absent (E := E) hm hc
    refine s.withHub members ?_ ?_ fun j _ y way => ?_ <;> rw [hub]
    · exact s.hub
    · exact way
  | some c =>
    obtain ⟨c', hc', same⟩ := caller_of_owned (E := E) hm hc
    have live' : (c.caller.move a).closed = false := same ▸ live.2 k c' hc'
    -- it is not the last holder that is dropped, or the client would be terminated
    have held := (Caller.frame_move apart live').2 (s.member k c hc).held
    obtain ⟨hub, members⟩ := move_of_owned (E := E) hm hc held
    refine s.withMember hc members ?_ ?_ (fun j y _ way => ?_) (fun _ _ => rfl)
      (fun _ => Nat.le_refl _) (s.portable k) ?_ <;> rw [hub]
    · exact s.hub.noteAll _
    · rfl
    · exact way
    · exact (s.member k c hc).moved few apart live' fun _ _ _ _ _ _ => id

/-- A call is issued, and its exchange is due if it is accepted. -/
theorem called (s : n.Sound E f kept due calls) {method : String} {args : List Json}
    {named : List (String × Json)} (live : n.Live) (few : calls k + 1 < UInt64.size)
    (portable : (Move.call k method args named).IsPortable f) :
    (n.move E (.call k method args named)).Sound E f kept
      (fun j => due j ++ ((Move.call k method args named).exchange? f j n).toList)
      (fun j => calls j + if (Move.call k method args named).calls j then 1 else 0) := by
  have others : ∀ j, j ≠ k →
      due j ++ ((Move.call k method args named).exchange? f j n).toList = due j := by
    intro j other
    simp [Move.exchange?, Ne.symm other]
  cases hc : n.members[k]? with
  | none =>
    have nothing : ∀ j, due j ++ ((Move.call k method args named).exchange? f j n).toList = due j := by
      intro j
      by_cases hjk : j = k
      · subst hjk
        simp [Move.exchange?, hc]
      · exact others j hjk
    obtain ⟨hub, members⟩ := move_of_absent (E := E) (m := .call k method args named) rfl hc
    simp only [nothing]
    refine (s.withHub members ?_ ?_ fun j _ y way => ?_).of_more_calls fun j => Nat.le_add_right ..
      <;> rw [hub]
    · exact s.hub
    · exact way
  | some c =>
    have new := (s.member k c hc).called few (live.2 k c hc) method args named fun id =>
      (portable id).1
    have due' : due k ++ ((Move.call k method args named).exchange? f k n).toList =
        due k ++ (((Caller.Move.issue true method args named).accepted? c.caller).map fun id =>
          ⟨id, f method (allArgs args named)⟩).toList := by
      simp [Move.exchange?, hc]
    obtain ⟨hub, members⟩ := move_of_owned (E := E) (m := .call k method args named) rfl hc new.held
    refine s.withMember hc members ?_ ?_ (fun j y _ way => ?_) others
      (fun j => Nat.le_add_right ..) (fun x hx => ?_) ?_
    · rw [hub]
      exact (s.hub.mono fun j x => List.mem_append_left _).noteAll _
    · rw [hub]
      rfl
    · rw [hub]
      exact way
    · rw [due', List.mem_append, Option.mem_toList, Option.map_eq_some_iff] at hx
      rcases hx with hx | ⟨id, -, rfl⟩
      · exact s.portable k x hx
      · exact (portable id).2
    · rw [due', hub]
      refine new.of_carries ?_ ?_
      · exact fun _ => id
      · simp [Move.calls]

/-- A client takes a step of its own, which keeps it and the hub in order. -/
theorem acted (s : n.Sound E f kept due calls) {step : Hub σ → Client → Hub σ × Client}
    (each : ∀ c, n.members[k]? = some c →
      (step n.hub c).1.Sound E f kept due ∧ (step n.hub c).1.sessions = n.hub.sessions ∧
      (∀ j y, j ≠ k → n.hub.Carries f kept j y → (step n.hub c).1.Carries f kept j y) ∧
      (step n.hub c).2.Sound f kept (step n.hub c).1 k (due k) (calls k)) :
    (n.act k step).Sound E f kept due calls := by
  cases hc : n.members[k]? with
  | none =>
    rw [act_of_none hc]
    exact s
  | some c =>
    obtain ⟨hub, sessions, carries, member⟩ := each c hc
    rw [act_of_some hc]
    exact s.withMember hc rfl hub sessions carries (fun _ _ => rfl) (fun _ => Nat.le_refl _)
      (s.portable k) member

/-- Every move keeps a network in order that is live after it. -/
theorem move (A : Answering E f kept) (s : n.Sound E f kept due calls) {m : Move}
    (live : (n.move E m).Live) (portable : m.IsPortable f)
    (connects : n.members.size + (if m.connects then 1 else 0) < UInt32.size)
    (few : ∀ k, calls k + (if m.calls k then 1 else 0) < UInt64.size) :
    (n.move E m).Sound E f kept (fun k => due k ++ (m.exchange? f k n).toList)
      (fun k => calls k + if m.calls k then 1 else 0) := by
  have before : n.Live := live_of_move live
  have few' : ∀ k, calls k < UInt64.size :=
    fun k => Nat.lt_of_le_of_lt (Nat.le_add_right ..) (few k)
  have same : ∀ {n' : Network σ Local}, n'.Sound E f kept due calls →
      n'.Sound E f kept (fun k => due k ++ []) (fun k => calls k + 0) := by
    intro n' s'
    simpa using s'
  cases m with
  | drive =>
    refine same (s.withHub rfl (s.hub.drive A s.portable) (n.hub.step_frame E).sessions
      fun j hj y way => ?_)
    exact way.step A s.hub.genuine s.hub.owned s.hub.directed s.hub.served s.portable live.1 hj
  | poll =>
    exact same (s.withHub rfl (s.hub.send nofun nofun) (n.hub.sessions_send .poll)
      fun j _ y way => Hub.Sound.carries_send way .poll)
  | shutdown =>
    exact same (s.withHub rfl (s.hub.send nofun nofun) (n.hub.sessions_send .shutdown)
      fun j _ y way => Hub.Sound.carries_send way .shutdown)
  | retain => exact same (s.withHub rfl s.hub.retain rfl fun j _ y => id)
  | letGo => exact same (s.withHub rfl s.hub.letGo rfl fun j _ y => id)
  | connect => exact same (s.connect connects)
  | call k method args named =>
    refine s.called before ?_ portable
    simpa [Move.calls] using few k
  | send k i =>
    have sent : (n.act k (Client.sendAt i)).Sound E f kept due calls := s.acted fun c hc =>
      (s.member k c hc).sent s.hub (s.lt_sessions hc) before.1 i
    -- to tidy up after a send is to do nothing while the client is held
    have tidied : ((n.act k (Client.sendAt i)).act k Client.tidy).Sound E f kept due calls := by
      refine sent.acted fun c hc => ?_
      have member := sent.member k c hc
      rw [Client.tidy_of_held _ member.held]
      exact ⟨sent.hub, rfl, fun _ _ _ => id, member⟩
    exact same tidied
  | forward k =>
    have forwarded : (n.act k Client.forward).Sound E f kept due calls := s.acted fun c hc =>
      (s.member k c hc).forwarded s.hub (s.lt_sessions hc) (few' k) (before.2 k c hc)
    exact same forwarded
  | collect k j => exact same (s.owned rfl rfl live (few' k))
  | expire k j => exact same (s.owned rfl rfl live (few' k))
  | release k j => exact same (s.owned rfl rfl live (few' k))
  | terminate k => exact same (s.owned rfl rfl live (few' k))
  | clone k => exact same (s.owned rfl rfl live (few' k))
  | drop k => exact same (s.owned rfl rfl live (few' k))

end Sound

/-! ## Runs -/

/-- Whether a run asks no more than envelopes and counters can bear: its envelopes get over, and
    neither the numbers of sessions nor the identities of a client's calls are used up. -/
structure IsModest (f : String → List Json → Json) (moves : List Move) : Prop where
  portable : ∀ m ∈ moves, m.IsPortable f
  connects : connections moves < UInt32.size
  calls : ∀ k, callings k moves < UInt64.size

section Runs

variable {E : Engine σ} {f : String → List Json → Json} {kept : σ → List Question}
  {n : Network σ Local}

theorem IsModest.of_append {moves more : List Move} (modest : IsModest f (moves ++ more)) :
    IsModest f moves where
  portable m hm := modest.portable m (List.mem_append_left _ hm)
  connects := by
    have connects := modest.connects
    rw [connections, List.countP_append] at connects
    exact Nat.lt_of_le_of_lt (Nat.le_add_right ..) connects
  calls k := by
    have calls := modest.calls k
    rw [callings, List.countP_append] at calls
    exact Nat.lt_of_le_of_lt (Nat.le_add_right ..) calls

theorem exchanges_append (k : Nat) (moves more : List Move) :
    exchanges E f k n (moves ++ more) =
      exchanges E f k n moves ++ exchanges E f k (after E n moves) more :=
  Run.seen_append ..

/-- A network that starts without clients is in order after every modest run that leaves it live. -/
theorem sound_after (A : Answering E f kept) (s : n.Sound E f kept (fun _ => []) fun _ => 0)
    (memberless : n.members.size = 0) (moves : List Move) (modest : IsModest f moves)
    (live : (after E n moves).Live) :
    (after E n moves).Sound E f kept (fun k => exchanges E f k n moves)
        (fun k => callings k moves) ∧
      (after E n moves).members.size = connections moves := by
  refine Run.after_induction (Network.move E) (motive := fun moves n' =>
    IsModest f moves → n'.Live →
    n'.Sound E f kept (fun k => exchanges E f k n moves) (fun k => callings k moves) ∧
      n'.members.size = connections moves) n ?_ ?_ moves modest live
  · exact fun _ _ => ⟨s, memberless⟩
  · intro moves m ih modest live
    obtain ⟨sound, size⟩ := ih modest.of_append (live_of_move live)
    have portable := modest.portable m (List.mem_append_right _ (List.mem_singleton.mpr rfl))
    have connects := modest.connects
    have few := modest.calls
    have size' := (Run.after (Network.move E) n moves).size_move (E := E) m
    simp only [connections_concat, callings_concat] at connects few ⊢
    rw [size] at size'
    refine ⟨?_, size'⟩
    have exchanged : ∀ k, exchanges E f k n (moves ++ [m]) =
        exchanges E f k n moves ++ (m.exchange? f k (after E n moves)).toList :=
      fun k => Run.seen_concat ..
    simp only [exchanged]
    exact sound.move A live portable (by rwa [size]) few

end Runs

end SessionHub.Network
