import SessionHub.Caller.Basic
import SessionHub.Proofs.Run

set_option autoImplicit false

/-! # Runs of a caller

Everything that happens to a caller is one of a few moves: a call is issued, a send sets out or
ends, something comes in, a ticket is asked for its result or given up, the caller is terminated, or
it gets or loses a holder. Moves come in any order; nothing says, for instance, that a send that
ends has set out before.

A failed send, an envelope and a frame do nothing to a caller but complete the call that they name
(`Move.completion?`, `move_of_completion`). -/

namespace SessionHub

/-- The call that an envelope answers, and its reply. -/
def Envelope.reply? : Envelope → Option (MessageId × Reply)
  | .response (some id) data => some (id, .ok data)
  | .error (some id) data => some (id, .error (.remote data.detail))
  | _ => none

namespace Caller

/-- Takes the oldest send. -/
def takeSend? (c : Caller) : Option (Send × Caller) :=
  c.sends.getLast?.map fun send => (send, { c with sends := c.sends.dropLast })

/-- What can happen to a caller. -/
inductive Move where
  /-- A call is issued; `scheduled` says whether there is something that would run its send. -/
  | issue (scheduled : Bool) (method : String) (args : List Json) (named : List (String × Json))
  /-- The oldest send sets out. -/
  | setOut
  /-- The send of the call `id` ends. -/
  | sendEnded (id : MessageId) (result : Except DeliveryError Unit)
  /-- An envelope comes in. -/
  | answer (e : Envelope)
  /-- The bytes of a frame come in. -/
  | receive (bytes : Bytes)
  /-- Ticket `k` is asked for its result. -/
  | collect (k : Nat)
  /-- The wait at ticket `k` times out. -/
  | expire (k : Nat)
  /-- Ticket `k` is given up. -/
  | release (k : Nat)
  | terminate
  /-- The caller gets one more holder. -/
  | retain
  /-- The caller loses a holder. -/
  | letGo

/-- Makes a move. The answer is what it logs. -/
def act (c : Caller) : Move → Caller × List Record
  | .issue scheduled method args named =>
    let r := c.issue scheduled method args named
    (r.1, r.2.2)
  | .setOut => ((c.takeSend?.map (·.2)).getD c, [])
  | .sendEnded id result => c.sendEnded id result
  | .answer e => ((c.answer e).1, (c.answer e).2.2)
  | .receive bytes => ((c.receive bytes).1, (c.receive bytes).2.2)
  | .collect k => ((c.collect k).1, [])
  | .expire k => ((c.expire k).1, (c.expire k).2.2)
  | .release k => (c.release k, [])
  | .terminate => (c.terminate.1, c.terminate.2.2)
  | .retain => (c.retain, [])
  | .letGo => c.letGo

/-- The caller after a move. -/
def move (c : Caller) (m : Move) : Caller :=
  (c.act m).1

/-- The caller after a run. -/
def run (c : Caller) (moves : List Move) : Caller :=
  Run.after move c moves

/-- What a run logs. -/
def logged (c : Caller) (moves : List Move) : List Record :=
  Run.seen move (fun c m => (c.act m).2) c moves

/-- The identity of the call that a move has accepted, if so. -/
def Move.accepted? (c : Caller) : Move → Option MessageId
  | .issue scheduled method args named =>
    match (c.issue scheduled method args named).2.1 with
    | .ok _ => some ⟨c.next⟩
    | .error _ => none
  | _ => none

/-- The identities of the calls that a run has accepted, in order. -/
def accepted (c : Caller) (moves : List Move) : List MessageId :=
  Run.seen move (fun c m => (m.accepted? c).toList) c moves

/-! ## Identities that are used up -/

/-- Whether a move uses up an identity. Also a call that is refused does, unless nothing could run
    its send. -/
def Move.takesIdentity : Move → Bool
  | .issue scheduled .. => scheduled
  | _ => false

/-- How many identities a run uses up. -/
def identities (moves : List Move) : Nat :=
  moves.countP Move.takesIdentity

@[simp] theorem identities_concat (moves : List Move) (m : Move) :
    identities (moves ++ [m]) = identities moves + if m.takesIdentity then 1 else 0 := by
  simp [identities, List.countP_append, List.countP_cons]

/-! ## Moves that complete a call -/

/-- The call that a move completes if it is outstanding, and its reply. -/
def Move.completion? : Move → Option (MessageId × Reply)
  | .sendEnded id (.error e) => some (id, .error (.send e.message))
  | .answer e => e.reply?
  | .receive bytes =>
    match Envelope.read bytes with
    | .ok e => e.reply?
    | .error _ => none
  | _ => none

/-- Whether a move tells how a call went. -/
def Move.tells : Move → Bool
  | .sendEnded .. | .answer _ | .receive _ => true
  | _ => false

theorem answer_of_reply {c : Caller} {e : Envelope} {id : MessageId} {r : Reply}
    (he : e.reply? = some (id, r)) :
    c.answer e = ((c.complete id r).1, (c.complete id r).2.1,
      if (c.complete id r).2.1 then (c.complete id r).2.2 else [.staleAnswer id]) := by
  cases e with
  | response id' data =>
    cases id' <;> simp only [Envelope.reply?, reduceCtorEq, Option.some.injEq, Prod.mk.injEq] at he
    obtain ⟨rfl, rfl⟩ := he
    rfl
  | error id' data =>
    cases id' <;> simp only [Envelope.reply?, reduceCtorEq, Option.some.injEq, Prod.mk.injEq] at he
    obtain ⟨rfl, rfl⟩ := he
    rfl
  | viewerMethod => simp [Envelope.reply?] at he
  | binary => simp [Envelope.reply?] at he

theorem answer_of_no_reply {c : Caller} {e : Envelope} (he : e.reply? = none) :
    c.answer e = (c, false, [.answersNothing e.kind e.id]) := by
  cases e with
  | response id' data => cases id' <;> simp [Envelope.reply?] at he; rfl
  | error id' data => cases id' <;> simp [Envelope.reply?] at he; rfl
  | viewerMethod => rfl
  | binary => rfl

/-- A move that completes a call does so, and logs what that logs or one record of its own. -/
theorem act_of_completion {c : Caller} {m : Move} {id : MessageId} {r : Reply}
    (hm : m.completion? = some (id, r)) :
    (c.act m).1 = (c.complete id r).1 ∧
      ∀ x ∈ (c.act m).2, x ∈ (c.complete id r).2.2 ∨ x = .staleAnswer id
        ∨ ∃ reason, x = .sendFailed id reason := by
  have answered : ∀ e : Envelope, e.reply? = some (id, r) →
      (c.answer e).1 = (c.complete id r).1 ∧
        ∀ x ∈ (c.answer e).2.2, x ∈ (c.complete id r).2.2 ∨ x = .staleAnswer id
          ∨ ∃ reason, x = .sendFailed id reason := by
    intro e he
    rw [answer_of_reply he]
    refine ⟨rfl, fun x hx => ?_⟩
    dsimp only at hx
    split at hx
    · exact .inl hx
    · exact .inr (.inl (List.mem_singleton.mp hx))
  cases m with
  | sendEnded id' result =>
    cases result <;> simp only [Move.completion?, reduceCtorEq, Option.some.injEq, Prod.mk.injEq]
      at hm
    obtain ⟨rfl, rfl⟩ := hm
    refine ⟨rfl, fun x hx => ?_⟩
    rcases List.mem_cons.mp hx with rfl | hx
    · exact .inr (.inr ⟨_, rfl⟩)
    · exact .inl hx
  | answer e => exact answered e hm
  | receive bytes =>
    simp only [Move.completion?] at hm
    split at hm
    · next e he =>
      have same : c.receive bytes = c.answer e := by simp only [receive, he]
      simp only [act, same]
      exact answered e hm
    · cases hm
  | _ => simp [Move.completion?] at hm

/-- A failed send, an envelope or a frame that names no call leaves the caller as it is. -/
theorem act_of_no_completion {c : Caller} {m : Move} (tells : m.tells) (hm : m.completion? = none) :
    (c.act m).1 = c ∧
      ∀ x ∈ (c.act m).2, (∃ kind id, x = .answersNothing kind id)
        ∨ ∃ reason, x = .unreadableMessage reason := by
  cases m with
  | sendEnded id result =>
    cases result with
    | ok _ => exact ⟨rfl, by simp [act, sendEnded]⟩
    | error _ => simp [Move.completion?] at hm
  | answer e =>
    simp only [act, answer_of_no_reply hm]
    exact ⟨trivial, fun x hx => .inl ⟨_, _, List.mem_singleton.mp hx⟩⟩
  | receive bytes =>
    simp only [Move.completion?] at hm
    simp only [act, receive]
    split
    · next e he =>
      rw [he] at hm
      rw [answer_of_no_reply hm]
      exact ⟨rfl, fun x hx => .inl ⟨_, _, List.mem_singleton.mp hx⟩⟩
    · exact ⟨rfl, fun x hx => .inr ⟨_, List.mem_singleton.mp hx⟩⟩
  | _ => simp [Move.tells] at tells

/-- A move that tells how a call went completes that call, or names none and leaves the caller as it
    is. -/
theorem move_of_tells {c : Caller} {m : Move} (tells : m.tells) :
    m.completion? = none ∧ c.move m = c ∨
      ∃ id r, m.completion? = some (id, r) ∧ c.move m = (c.complete id r).1 := by
  cases hm : m.completion? with
  | none => exact .inl ⟨rfl, (act_of_no_completion tells hm).1⟩
  | some p => exact .inr ⟨p.1, p.2, rfl, (act_of_completion hm).1⟩

end Caller

end SessionHub
