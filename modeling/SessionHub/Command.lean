import SessionHub.Ident

set_option autoImplicit false

/-! # Commands and responses

Sessions ask the hub for work by commands; the engine produces responses, each addressed to one
session. -/

namespace SessionHub

/-- What the engine has to say to one session. -/
structure Response where
  session : SessionId
  bytes : Bytes
  deriving DecidableEq, Repr

/-- What the hub is asked to do. -/
inductive Command where
  /-- Hand a request of a session to the engine. -/
  | request (session : SessionId) (bytes : Bytes)
  /-- Let the engine work for one step. -/
  | poll
  /-- Release what the engine holds for a session. -/
  | close (session : SessionId)
  /-- Stop. -/
  | shutdown
  deriving DecidableEq, Repr

/-- How many threads a pool of workers has: at least one. -/
abbrev WorkerCount := { n : Nat // 0 < n }

/-- How the hub calls its engine. -/
inductive Mode where
  /-- On its own loop, which gives way to others after each call. -/
  | cooperative
  /-- On a pool of workers, one call at a time. -/
  | pool (workers : WorkerCount)
  deriving DecidableEq, Repr

namespace Mode

/-- A pool of one worker. -/
def onePool : Mode :=
  pool ⟨1, by decide⟩

/-- The mode of a given name, in any case. -/
def ofName? (name : String) : Option Mode :=
  if name = "cooperative" ∨ name = "single" then some cooperative
  else if name = "pool" then some onePool
  else none

end Mode

/-! ## How they are shown -/

/-- A session in a record. -/
def SessionId.describe (id : SessionId) : String :=
  "SessionId(" ++ id.display ++ ")"

/-- A byte string in a record. -/
def Bytes.describe (bs : Bytes) : String :=
  "[" ++ ", ".intercalate (bs.map fun b => toString b.toNat) ++ "]"

/-- A command in a record. -/
def Command.describe : Command → String
  | request session bytes =>
    "Request \x7b session: " ++ session.describe ++ ", bytes: " ++ bytes.describe ++ " \x7d"
  | poll => "Poll"
  | close session => "Close(" ++ session.describe ++ ")"
  | shutdown => "Shutdown"

/-- A mode in a record. -/
def Mode.describe : Mode → String
  | cooperative => "Cooperative"
  | pool workers => "Pool \x7b workers: " ++ toString workers.val ++ " \x7d"

/-- An identity that may be missing in a record. -/
def MessageId.describe? : Option MessageId → String
  | some id => "Some(MessageId(" ++ toString id.val.toNat ++ "))"
  | none => "None"

end SessionHub
