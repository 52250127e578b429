import SessionHub.Proofs.Hub.Run
import SessionHub.Proofs.Hub.Step

set_option autoImplicit false

/-! # What comes into a mailbox

The driver adds to a mailbox when it hands out a response, and others do so when they complete a
delivery. All other moves leave mailboxes as they are, or take something out
(`taken_append_unread`). -/

namespace SessionHub.Hub

variable {σ : Type}

theorem unread_of_some {h : Hub σ} {k : Nat} {m : Mailbox} (hm : h.mailboxes[k]? = some m) :
    h.unread k = m.unread := by
  rw [unread, hm]
  rfl

theorem unread_of_none {h : Hub σ} {k : Nat} (hm : h.mailboxes[k]? = none) : h.unread k = [] := by
  rw [unread, hm]
  rfl

theorem unread_congr {h h' : Hub σ} {k : Nat} (same : h'.mailboxes[k]? = h.mailboxes[k]?) :
    h'.unread k = h.unread k := by
  rw [unread, same, unread]

theorem unread_append {h h' : Hub σ} {k : Nat} {more : List Bytes}
    (mailbox : h'.mailboxes[k]? = (h.mailboxes[k]?).map fun m =>
      { m with unread := m.unread ++ more })
    (vacant : h.mailboxes[k]? = none → more = []) : h'.unread k = h.unread k ++ more := by
  cases hm : h.mailboxes[k]? with
  | none =>
    rw [hm] at mailbox
    rw [unread_of_none mailbox, unread_of_none hm, vacant hm]
    rfl
  | some m =>
    rw [hm] at mailbox
    rw [unread_of_some mailbox, unread_of_some hm]

theorem delivered_of_none {h : Hub σ} {k : Nat} (hm : h.mailboxes[k]? = none) (d : Delivery) :
    h.delivered d k = [] := by
  simp [delivered, hm]

/-- What a step of the driver adds to mailbox `k`. -/
def handing (h : Hub σ) (k : Nat) : List Bytes :=
  match h.phase with
  | .delivering d _ => h.delivered d k
  | _ => []

theorem handing_of_delivering {h : Hub σ} {d : Delivery} {rest : List Response}
    (delivering : h.phase = .delivering d rest) (k : Nat) : h.handing k = h.delivered d k := by
  rw [handing, delivering]

/-- If no response is handed out, nothing is added. -/
theorem handing_of_not_passing {h : Hub σ} (nothing : h.passing = []) (k : Nat) :
    h.handing k = [] := by
  unfold passing at nothing
  unfold handing
  split
  · next d rest delivering => simp [delivering] at nothing
  · rfl

theorem handing_of_nil {h : Hub σ} (nothing : h.routing = []) (k : Nat) : h.handing k = [] :=
  handing_of_not_passing (passing_of_routing_nil nothing) k

/-- A mailbox that is not attended gets nothing. -/
theorem handing_of_unattended {h : Hub σ} {k : Nat}
    (unattended : h.mailboxes[k]?.any (·.attended) = false) : h.handing k = [] := by
  unfold handing delivered
  split
  · exact if_neg fun leads => Bool.false_ne_true (unattended.symm.trans leads.2)
  · rfl

/-- Fewer attended mailboxes get no more. -/
theorem handing_prefix {h h' : Hub σ} (phase : h'.phase = h.phase)
    (attended : ∀ k : Nat, h'.mailboxes[k]?.any (·.attended) → h.mailboxes[k]?.any (·.attended))
    (k : Nat) : h'.handing k <+: h.handing k := by
  unfold handing
  rw [phase]
  split
  · next d rest delivering =>
    unfold delivered
    by_cases leads : d.found = some (.mailbox k) ∧ h'.mailboxes[k]?.any (·.attended)
    · simp [leads.1, leads.2, attended k leads.2]
    · rw [if_neg leads]
      exact List.nil_prefix
  · exact List.prefix_rfl

theorem unread_step (E : Engine σ) (h : Hub σ) (k : Nat) :
    (h.step E).unread k = h.unread k ++ h.handing k := by
  have same : (h.step E).mailboxes = h.mailboxes → h.handing k = [] →
      (h.step E).unread k = h.unread k ++ h.handing k := by
    intro mailboxes nothing
    rw [nothing, List.append_nil]
    exact unread_congr (by rw [mailboxes])
  cases h.stepped E with
  | quiet engine mailboxes running before => exact same mailboxes (handing_of_not_passing before k)
  | stopped engine mailboxes running before => exact same mailboxes (handing_of_nil before k)
  | answered call answer calling result engine mailboxes running before =>
    exact same mailboxes (handing_of_nil before k)
  | panicked call calling result engine mailboxes before =>
    exact same mailboxes (handing_of_nil before k)
  | routed d delivering engine size mailboxes =>
    rw [handing_of_delivering delivering]
    exact unread_append (mailboxes k) fun hm => delivered_of_none hm d

/-- What a move adds to mailbox `k`. -/
def Move.added (k : Nat) (h : Hub σ) : Move → List Bytes
  | .drive => h.handing k
  | .completeDelivery i => h.completing i k
  | _ => []

theorem read?_of_nil {h : Hub σ} {k : Nat} (none_left : h.unread k = []) : h.read? k = none := by
  rw [read?, none_left]

theorem read?_of_cons {h : Hub σ} {k : Nat} {bytes : Bytes} {rest : List Bytes}
    (some_left : h.unread k = bytes :: rest) :
    h.read? k = some (bytes,
      { h with mailboxes := h.mailboxes.modify k fun m => { m with unread := rest } }) := by
  rw [read?, some_left]

theorem mailboxes_send (h : Hub σ) (c : Command) : (h.send c).1.mailboxes = h.mailboxes := by
  unfold send
  split <;> rfl

theorem mailboxes_sendFor (h : Hub σ) (k : Nat) (command : SessionId → Command) :
    (h.sendFor k command).1.mailboxes = h.mailboxes := by
  unfold sendFor
  split
  · rfl
  · split
    · rfl
    · exact h.mailboxes_send _

theorem mailboxes_close (h : Hub σ) (k : Nat) : (h.close k).mailboxes = h.mailboxes := by
  unfold close
  split
  · rfl
  · split
    · rfl
    · dsimp only
      split
      · exact mailboxes_send _ _
      · rfl

/-- Doing something to mailbox `j` that leaves `unread` in it. -/
theorem unread_modify (h : Hub σ) (j k : Nat) (f : Mailbox → Mailbox) {rest : List Bytes}
    (hf : ∀ m, h.mailboxes[j]? = some m → (f m).unread = rest)
    (vacant : h.mailboxes[j]? = none → rest = []) :
    ({ h with mailboxes := h.mailboxes.modify j f } : Hub σ).unread k =
      if j = k then rest else h.unread k := by
  unfold unread
  simp only [Array.getElem?_modify]
  by_cases hjk : j = k
  · subst hjk
    cases hm : h.mailboxes[j]? with
    | none => simp [vacant hm]
    | some m => simp [hf m hm]
  · simp only [hjk, if_false]

/-- Nothing comes into a mailbox but what is added to it, and nothing goes but what is taken. -/
theorem taken_append_unread (E : Engine σ) (h : Hub σ) (m : Move) (k : Nat) :
    m.taken k h ++ (h.move E m).unread k = h.unread k ++ m.added k h := by
  -- most moves leave mailboxes alone
  have same : ∀ h' : Hub σ, h'.mailboxes = h.mailboxes → [] ++ h'.unread k = h.unread k ++ [] := by
    intro h' mailboxes
    rw [List.nil_append, List.append_nil]
    exact unread_congr (by rw [mailboxes])
  cases m with
  | drive => exact unread_step E h k
  | command c => exact same _ (h.mailboxes_send c)
  | retain => exact same _ rfl
  | letGo => exact same _ rfl
  | openMailbox =>
    have pushed : h.openMailbox.1.mailboxes = h.mailboxes.push {} := rfl
    have new : h.openMailbox.1.unread k = h.unread k := by
      unfold unread
      rw [pushed, Array.getElem?_push]
      split
      · next hk =>
        subst hk
        simp
      · rfl
    exact new.trans (List.append_nil _).symm
  | request j bytes => exact same _ (h.mailboxes_sendFor j _)
  | poll j => exact same _ (h.mailboxes_sendFor j _)
  | close j => exact same _ (h.mailboxes_close j)
  | drop j => exact same _ (h.mailboxes_close j)
  | read j =>
    cases hu : h.unread j with
    | nil =>
      simp only [Move.taken, Move.added, move, read?_of_nil hu, Option.map_none, Option.getD_none,
        List.append_nil]
      split
      · next hjk => rw [← hjk, hu]; rfl
      · rfl
    | cons bytes rest =>
      simp only [Move.taken, Move.added, move, read?_of_cons hu, Option.map_some, Option.getD_some,
        List.append_nil]
      rw [h.unread_modify j k (fun m => { m with unread := rest }) (fun _ _ => rfl)
        fun hm => by simp [unread_of_none hm] at hu]
      split
      · next hjk => rw [← hjk, hu]; rfl
      · rfl
  | readAll j =>
    simp only [Move.taken, Move.added, move, readAll, List.append_nil]
    rw [h.unread_modify j k (fun m => { m with unread := [] }) (fun _ _ => rfl) fun _ => rfl]
    split
    · next hjk => rw [← hjk, List.append_nil]
    · rfl
  | leave j =>
    simp only [Move.taken, Move.added, move, leaveMailbox, List.append_nil]
    rw [h.unread_modify j k (fun _ => { unread := [], attended := false }) (fun _ _ => rfl)
      fun _ => rfl]
    split
    · next hjk => rw [← hjk, List.append_nil]
    · rfl
  | enrol callback => exact same _ rfl
  | strike id => exact same _ rfl
  | beginDelivery id bytes => exact same _ rfl
  | completeDelivery i =>
    obtain ⟨mailboxes, log, completed, -, each⟩ := h.completeDelivery_eq i
    refine unread_append ?_ fun hm => ?_
    · rw [move, completed]
      exact each k
    · exact List.flatMap_eq_nil_iff.mpr fun d _ => delivered_of_none hm d
  | log records => exact same _ rfl

/-- What a run adds to mailbox `k`, in order. -/
def added (E : Engine σ) (k : Nat) (h : Hub σ) (moves : List Move) : List Bytes :=
  Run.seen (move E) (fun h m => m.added k h) h moves

/-- All that is handed to a mailbox was in it at first or is added to it. -/
theorem handed_eq (E : Engine σ) (h : Hub σ) (moves : List Move) (k : Nat) :
    handed E k h moves = h.unread k ++ added E k h moves := by
  unfold handed added after
  induction moves generalizing h with
  | nil => exact (List.append_nil _).symm
  | cons m moves ih =>
    rw [Run.seen_cons, Run.seen_cons, Run.after_cons, List.append_assoc, ih, ← List.append_assoc,
      taken_append_unread, List.append_assoc]

end SessionHub.Hub
