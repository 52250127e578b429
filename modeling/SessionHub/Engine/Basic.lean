import SessionHub.Log.Record

set_option autoImplicit false

/-! # Engines

An engine does the work that all sessions share. It is called by one caller at a time. A call may
panic instead of returning; the engine then stays as the call left it. -/

namespace SessionHub

/-- What a call did: the state that it left, its result unless it panicked, and what it logged. -/
structure Outcome (σ α : Type) where
  state : σ
  result : Option α
  records : List Record := []

/-- An engine with states `σ`. -/
structure Engine (σ : Type) where
  /-- Takes a request of a session and gives the responses that are there at once. -/
  request : σ → SessionId → Bytes → Outcome σ (List Response)
  /-- Works for one step. -/
  poll : σ → Outcome σ (List Response)
  /-- Whether work is left that a later `poll` would do; `none` if the question panics. -/
  hasPending : σ → Option Bool
  /-- Releases what is held for a session. -/
  close : σ → SessionId → Outcome σ Unit

/-- A call of the engine, as the hub makes it. -/
inductive Invocation where
  | request (session : SessionId) (bytes : Bytes)
  | poll
  | close (session : SessionId)
  deriving DecidableEq, Repr

/-- What the hub gets from a call: responses, and whether the engine must be polled again. A call
    that closes a session says nothing about polls. -/
structure Answer where
  responses : List Response
  again : Option Bool
  deriving DecidableEq, Repr

namespace Engine

variable {σ : Type} (E : Engine σ)

/-- Makes a call. After a request the engine is to be polled; after a poll, if it has work left. -/
def invoke (s : σ) : Invocation → Outcome σ Answer
  | .request session bytes =>
    let o := E.request s session bytes
    { o with result := o.result.map fun responses => ⟨responses, some true⟩ }
  | .poll =>
    let o := E.poll s
    { o with
      result := o.result.bind fun responses =>
        (E.hasPending o.state).map fun pending => ⟨responses, some pending⟩ }
  | .close session =>
    let o := E.close s session
    { o with result := o.result.map fun _ => ⟨[], none⟩ }

end Engine

end SessionHub
