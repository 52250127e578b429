import SessionHub.Hub.Basic
import SessionHub.Proofs.Directory.Entries
import SessionHub.Proofs.Run

set_option autoImplicit false

/-! # A directory in use

A `Switchboard` is a directory together with what its callbacks act on. A callback puts the bytes
into a mailbox, or it does something to the world, of the type `ω`, and succeeds or fails. The
switchboard keeps a record of the calls, so that what becomes of a delivery can be followed.

All handles of a directory share its entries, so that it does not matter through which of them an
operation is made. What a callback itself does to the directory counts as operations of its own,
which come after the delivery. -/

namespace SessionHub

/-! ## Mailboxes -/

/-- A mailbox takes in a delivery if its reader is still there. -/
def Mailbox.receive (m : Mailbox) (bytes : Bytes) : Mailbox × Except DeliveryError Unit :=
  if m.attended then ({ m with unread := m.unread ++ [bytes] }, .ok ()) else (m, .error .closed)

theorem Mailbox.receive_of_attended {m : Mailbox} (attended : m.attended) (bytes : Bytes) :
    m.receive bytes = ({ m with unread := m.unread ++ [bytes] }, .ok ()) :=
  if_pos attended

theorem Mailbox.receive_of_left {m : Mailbox} (left : m.attended = false) (bytes : Bytes) :
    m.receive bytes = (m, .error .closed) :=
  if_neg (by simp [left])

/-- The callback of a mailbox has the mailbox take in what is delivered. -/
theorem Hub.call_mailbox {σ : Type} {h : Hub σ} {k : Nat} {m : Mailbox}
    (found : h.mailboxes[k]? = some m) (bytes : Bytes) :
    (Hub.call (.mailbox k) bytes h).2 = (m.receive bytes).2 ∧
    (Hub.call (.mailbox k) bytes h).1.mailboxes[k]? = some (m.receive bytes).1 := by
  cases attended : m.attended with
  | true =>
    simp only [call, found, Option.any_some, attended, if_true, Mailbox.receive_of_attended attended,
      Array.getElem?_modify, Option.map_some]
    exact ⟨trivial, trivial⟩
  | false =>
    simp only [call, found, Option.any_some, attended, Bool.false_eq_true, if_false,
      Mailbox.receive_of_left attended]
    exact ⟨trivial, trivial⟩

/-! ## Switchboards -/

/-- A callback. -/
inductive Recipient (κ : Type) where
  | mailbox (k : Nat)
  | other (callback : κ)

/-- Whether a callback puts into mailbox `k`. -/
def Recipient.isMailbox {κ : Type} (k : Nat) : Recipient κ → Bool
  | mailbox j => j = k
  | other _ => false

/-- A callback that was enrolled, with the number that it got. -/
structure Subscriber (κ : Type) where
  id : SessionId
  recipient : Recipient κ

/-- A directory with mailboxes and a world of callbacks. Calls are kept oldest first. -/
structure Switchboard (κ ω : Type) where
  directory : Directory (Subscriber κ) := {}
  mailboxes : Nat → Mailbox := fun _ => {}
  world : ω
  calls : List (Subscriber κ × Bytes) := []

namespace Switchboard

variable {κ ω : Type}

/-- Enrols a callback, and returns its number. -/
def enrol (s : Switchboard κ ω) (r : Recipient κ) : Switchboard κ ω × SessionId :=
  let id := s.directory.nextId
  ({ s with directory := s.directory.enrol ⟨id, r⟩ }, id)

/-- Strikes a number off. The answer says whether it was there. -/
def strike (s : Switchboard κ ω) (id : SessionId) : Switchboard κ ω × Bool :=
  ({ s with directory := s.directory.remove id }, s.directory.contains id)

/-- Does something to mailbox `k`. -/
def modifyMailbox (s : Switchboard κ ω) (k : Nat) (f : Mailbox → Mailbox) : Switchboard κ ω :=
  { s with mailboxes := fun j => if j = k then f (s.mailboxes j) else s.mailboxes j }

variable (react : κ → Bytes → ω → ω × Except DeliveryError Unit)

/-- Runs the callback of a subscriber. -/
def call (e : Subscriber κ) (bytes : Bytes) (s : Switchboard κ ω) :
    Switchboard κ ω × Except DeliveryError Unit :=
  let s := { s with calls := s.calls ++ [(e, bytes)] }
  match e.recipient with
  | .mailbox k =>
    (s.modifyMailbox k fun m => (m.receive bytes).1, ((s.mailboxes k).receive bytes).2)
  | .other callback =>
    let (world, result) := react callback bytes s.world
    ({ s with world }, result)

/-- Hands `bytes` to a number. -/
def deliver (s : Switchboard κ ω) (id : SessionId) (bytes : Bytes) :
    Switchboard κ ω × Except RoutingError Unit :=
  let (s, result, _) := Directory.deliver directory (call react) s id bytes
  (s, result)

/-- What can be done to a switchboard. -/
inductive Operation (κ ω : Type) where
  | enrol (r : Recipient κ)
  | strike (id : SessionId)
  | deliver (id : SessionId) (bytes : Bytes)
  /-- The oldest delivery is taken from mailbox `k`. -/
  | read (k : Nat)
  /-- The reader of mailbox `k` goes away. -/
  | leave (k : Nat)
  /-- The world goes on without the switchboard. -/
  | elsewhere (f : ω → ω)

/-- The switchboard after an operation. -/
def operate (s : Switchboard κ ω) : Operation κ ω → Switchboard κ ω
  | .enrol r => (s.enrol r).1
  | .strike id => (s.strike id).1
  | .deliver id bytes => (s.deliver react id bytes).1
  | .read k => s.modifyMailbox k fun m => { m with unread := m.unread.drop 1 }
  | .leave k => s.modifyMailbox k fun _ => { unread := [], attended := false }
  | .elsewhere f => { s with world := f s.world }

/-- The switchboard after some operations. -/
def after (s : Switchboard κ ω) (ops : List (Operation κ ω)) : Switchboard κ ω :=
  Run.after (operate react) s ops

/-! ## What can be seen -/

namespace Operation

def enrols : Operation κ ω → Bool
  | enrol _ => true
  | _ => false

def strikes (id : SessionId) : Operation κ ω → Bool
  | strike other => other = id
  | _ => false

def leaves (k : Nat) : Operation κ ω → Bool
  | leave j => j = k
  | _ => false

/-- What an operation delivers to a number. -/
def delivery? (id : SessionId) : Operation κ ω → Option Bytes
  | deliver other bytes => if other = id then some bytes else none
  | _ => none

/-- The number that an operation strikes off, if it was there. -/
def struck (s : Switchboard κ ω) : Operation κ ω → List SessionId
  | strike id => if (s.strike id).2 then [id] else []
  | _ => []

/-- What an operation takes out of mailbox `k`. What is in it when its reader goes away was
    delivered, though it is not read. -/
def taken (k : Nat) (s : Switchboard κ ω) : Operation κ ω → List Bytes
  | read j => if j = k then (s.mailboxes k).unread.take 1 else []
  | leave j => if j = k then (s.mailboxes k).unread else []
  | _ => []

/-- The call that an operation makes. -/
def called (s : Switchboard κ ω) : Operation κ ω → List (Subscriber κ × Bytes)
  | deliver id bytes => ((s.directory.callback? id).map (·, bytes)).toList
  | _ => []

end Operation

/-- The number of enrolments. -/
def enrolments (ops : List (Operation κ ω)) : Nat :=
  ops.countP Operation.enrols

@[simp] theorem enrolments_cons (o : Operation κ ω) (ops : List (Operation κ ω)) :
    enrolments (o :: ops) = enrolments ops + if o.enrols then 1 else 0 :=
  List.countP_cons

@[simp] theorem enrolments_append (ops more : List (Operation κ ω)) :
    enrolments (ops ++ more) = enrolments ops + enrolments more :=
  List.countP_append

theorem enrolments_concat (ops : List (Operation κ ω)) (o : Operation κ ω) :
    enrolments (ops ++ [o]) = enrolments ops + if o.enrols then 1 else 0 := by
  rw [enrolments_append, enrolments_cons]
  exact congrArg _ (Nat.zero_add _)

/-- What is delivered to a number until it is struck off. -/
def sent (id : SessionId) (ops : List (Operation κ ω)) : List Bytes :=
  (ops.takeWhile fun o => !o.strikes id).filterMap (·.delivery? id)

/-- The numbers that were struck off with success. -/
def struck (s : Switchboard κ ω) (ops : List (Operation κ ω)) : List SessionId :=
  Run.seen (operate react) Operation.struck s ops

/-- All that mailbox `k` took in, in order: what was taken out of it and what is in it at the
    end. -/
def received (k : Nat) (s : Switchboard κ ω) (ops : List (Operation κ ω)) : List Bytes :=
  Run.seen (operate react) (Operation.taken k) s ops ++ ((after react s ops).mailboxes k).unread

/-- The calls of the callback that was enrolled under a number. -/
def callsOf (s : Switchboard κ ω) (id : SessionId) : List (Subscriber κ × Bytes) :=
  s.calls.filter (·.1.id = id)

/-- What the callbacks of mailbox `k` were called with. -/
def callsInto (s : Switchboard κ ω) (k : Nat) : List Bytes :=
  (s.calls.filter (·.1.recipient.isMailbox k)).map (·.2)

/-- Whether `e` was enrolled, by the operation that comes before `later`. -/
def Enrolled (s : Switchboard κ ω) (ops : List (Operation κ ω)) (e : Subscriber κ)
    (later : List (Operation κ ω)) : Prop :=
  ∃ before, ops = before ++ .enrol e.recipient :: later ∧
    e.id = ((after react s before).enrol e.recipient).2

/-! ## What one operation does -/

theorem deliver_of_none {s : Switchboard κ ω} {id : SessionId}
    (unlisted : s.directory.callback? id = none) (bytes : Bytes) :
    s.deliver react id bytes = (s, .error (.notFound id)) := by
  simp only [deliver, Directory.deliver, unlisted, Directory.handOver]

theorem deliver_of_some {s : Switchboard κ ω} {id : SessionId} {e : Subscriber κ}
    (found : s.directory.callback? id = some e) (bytes : Bytes) :
    s.deliver react id bytes =
      ((s.call react e bytes).1, (s.call react e bytes).2.mapError (.delivery id)) := by
  simp only [deliver, Directory.deliver, found, Directory.handOver]
  obtain ⟨s', result⟩ := s.call react e bytes
  cases result <;> rfl

/-- What a delivery makes of the result of a callback. -/
theorem mapError_delivery_iff (id : SessionId) (result : Except DeliveryError Unit) :
    let reported : Except RoutingError Unit := result.mapError (.delivery id)
    (reported = .ok () ↔ result = .ok ()) ∧
    (∀ err, reported = .error (.delivery id err) ↔ result = .error err) ∧
    reported ≠ .error (.notFound id) := by
  cases result with
  | ok _ =>
    refine ⟨iff_of_true rfl rfl, fun err => iff_of_false ?_ ?_, ?_⟩ <;> rintro ⟨⟩
  | error failure =>
    refine ⟨iff_of_false ?_ ?_, fun err => ⟨?_, ?_⟩, ?_⟩ <;> rintro ⟨⟩ <;> rfl

theorem call_frame (s : Switchboard κ ω) (e : Subscriber κ) (bytes : Bytes) :
    (s.call react e bytes).1.directory = s.directory ∧
    (s.call react e bytes).1.calls = s.calls ++ [(e, bytes)] ∧
    ∀ k, (s.call react e bytes).1.mailboxes k =
      if e.recipient.isMailbox k then ((s.mailboxes k).receive bytes).1 else s.mailboxes k := by
  unfold call
  cases e.recipient with
  | mailbox j =>
    refine ⟨rfl, rfl, fun k => ?_⟩
    simp only [modifyMailbox, Recipient.isMailbox, decide_eq_true_eq, eq_comm (a := k)]
  | other callback => exact ⟨rfl, rfl, fun k => rfl⟩

/-- A delivery reports that the number is unknown, that its callback failed, or neither, as the case
    may be, calls no other callback and leaves the directory as it is. -/
theorem deliver_reports (s : Switchboard κ ω) (id : SessionId) (bytes : Bytes) :
    let d := s.deliver react id bytes
    (d.2 = .error (.notFound id) ↔ s.directory.callback? id = none) ∧
    (d.2 = .ok () ↔ ∃ e, s.directory.callback? id = some e ∧
      (s.call react e bytes).2 = .ok ()) ∧
    (∀ err, d.2 = .error (.delivery id err) ↔ ∃ e, s.directory.callback? id = some e ∧
      (s.call react e bytes).2 = .error err) ∧
    d.1.directory = s.directory ∧
    d.1.calls = s.calls ++ ((s.directory.callback? id).map (·, bytes)).toList := by
  intro d
  cases found : s.directory.callback? id with
  | none =>
    have missed : d = (s, .error (.notFound id)) := deliver_of_none react found bytes
    rw [missed]
    simp
  | some e =>
    have made : d = ((s.call react e bytes).1, (s.call react e bytes).2.mapError (.delivery id)) :=
      deliver_of_some react found bytes
    obtain ⟨directory, calls, -⟩ := s.call_frame react e bytes
    obtain ⟨taken, failed, known⟩ := mapError_delivery_iff id (s.call react e bytes).2
    rw [made]
    refine ⟨?_, ?_, fun err => ?_, directory, calls⟩
    · simpa using known
    · simpa using taken
    · simpa using failed err

/-- The callback of a mailbox fails exactly if the mailbox is not attended any more. -/
theorem call_of_mailbox {s : Switchboard κ ω} {e : Subscriber κ} {k : Nat}
    (reached : e.recipient = .mailbox k) (bytes : Bytes) :
    (s.call react e bytes).2 =
      if (s.mailboxes k).attended then .ok () else .error .closed := by
  simp only [call, reached, Mailbox.receive]
  split <;> rfl

/-- Only enrolling and striking off change the directory. -/
theorem directory_operate (s : Switchboard κ ω) (o : Operation κ ω) :
    (s.operate react o).directory = match o with
      | .enrol r => s.directory.enrol ⟨s.directory.nextId, r⟩
      | .strike id => s.directory.remove id
      | _ => s.directory := by
  cases o with
  | deliver id bytes =>
    obtain ⟨-, -, -, directory, -⟩ := s.deliver_reports react id bytes
    exact directory
  | _ => rfl

theorem calls_operate (s : Switchboard κ ω) (o : Operation κ ω) :
    (s.operate react o).calls = s.calls ++ o.called s := by
  cases o with
  | deliver id bytes =>
    obtain ⟨-, -, -, -, calls⟩ := s.deliver_reports react id bytes
    exact calls
  | _ => exact (List.append_nil _).symm

/-- A mailbox is attended until its receiver is dropped. -/
theorem attended_operate (s : Switchboard κ ω) (o : Operation κ ω) (k : Nat) :
    ((s.operate react o).mailboxes k).attended = ((s.mailboxes k).attended && !o.leaves k) := by
  cases o with
  | deliver id bytes =>
    simp only [operate, Operation.leaves, Bool.not_false, Bool.and_true]
    cases found : s.directory.callback? id with
    | none => rw [deliver_of_none react found]
    | some e =>
      rw [deliver_of_some react found, (s.call_frame react e bytes).2.2 k]
      split
      · unfold Mailbox.receive
        split <;> rfl
      · rfl
  | read j =>
    by_cases here : k = j <;> simp [operate, modifyMailbox, Operation.leaves, here]
  | leave j =>
    by_cases here : k = j
    · simp [operate, modifyMailbox, Operation.leaves, here]
    · simp [operate, modifyMailbox, Operation.leaves, here, Ne.symm here]
  | _ => exact (Bool.and_true _).symm

/-- What a mailbox has, together with what is taken out of it, is what it had and what its callbacks
    are called with, if it takes anything in. -/
theorem unread_operate (s : Switchboard κ ω) (o : Operation κ ω) (k : Nat) :
    o.taken k s ++ ((s.operate react o).mailboxes k).unread =
      (s.mailboxes k).unread ++
        if (s.mailboxes k).attended then
          ((o.called s).filter (·.1.recipient.isMailbox k)).map (·.2)
        else [] := by
  have nothing : ∀ unread : List Bytes, unread = unread ++
      if (s.mailboxes k).attended then ([] : List Bytes) else [] := by simp
  cases o with
  | deliver id bytes =>
    simp only [operate, Operation.called, Operation.taken, List.nil_append]
    cases found : s.directory.callback? id with
    | none =>
      rw [deliver_of_none react found]
      exact nothing _
    | some e =>
      rw [deliver_of_some react found, (s.call_frame react e bytes).2.2 k]
      unfold Mailbox.receive
      cases reached : e.recipient.isMailbox k <;> cases (s.mailboxes k).attended <;>
        simp [reached]
  | read j =>
    by_cases here : k = j
    · subst here
      simp only [operate, modifyMailbox, Operation.taken, if_true, List.take_append_drop]
      exact nothing _
    · simp [operate, modifyMailbox, Operation.taken, Operation.called, here, Ne.symm here]
  | leave j =>
    by_cases here : k = j
    · subst here
      simp [operate, modifyMailbox, Operation.taken, Operation.called]
    · simp [operate, modifyMailbox, Operation.taken, Operation.called, here, Ne.symm here]
  | _ => exact nothing _

end Switchboard

end SessionHub
