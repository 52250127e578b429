import SessionHub.Log.Record

set_option autoImplicit false

/-! # The directory of sessions

A `Directory κ` maps the `SessionId` of a session to its callback, of the type `κ`, which is left
open here. `enrol` lists a callback under the next number of a 32-bit counter that starts at one and
wraps; the number of an entry that was removed is not given again before the counter wraps. -/

namespace SessionHub

/-- Why a callback could not deliver. -/
inductive DeliveryError where
  /-- The receiver was dropped. -/
  | closed
  | other (reason : String)
  deriving DecidableEq, Repr

/-- The wording of a failed delivery. -/
def DeliveryError.message : DeliveryError → String
  | closed => "delivery channel closed"
  | other reason => reason

/-- Why a message did not reach its session. -/
inductive RoutingError where
  | notFound (session : SessionId)
  | delivery (session : SessionId) (source : DeliveryError)
  deriving DecidableEq, Repr

/-- The wording of a message that did not arrive. -/
def RoutingError.message : RoutingError → String
  | notFound session => "session " ++ session.display ++ " not found"
  | delivery session source =>
    "delivery to session " ++ session.display ++ " failed: " ++ source.message

/-- The sessions enrolled, each with its callback, newest first. -/
structure Directory (κ : Type) where
  entries : List (SessionId × κ) := []
  /-- How many sessions were ever enrolled. -/
  enrolments : Nat := 0
  deriving Repr

namespace Directory

variable {κ : Type}

/-- How many different numbers there are. -/
def numbers : Nat :=
  UInt32.size

/-- How many sessions are enrolled. -/
def size (d : Directory κ) : Nat :=
  d.entries.length

/-- The callback of a session. -/
def callback? (d : Directory κ) (id : SessionId) : Option κ :=
  d.entries.lookup id

/-- Whether a session is enrolled. -/
def contains (d : Directory κ) (id : SessionId) : Bool :=
  (d.callback? id).isSome

/-- The entries of all sessions but one. -/
def others (d : Directory κ) (id : SessionId) : List (SessionId × κ) :=
  d.entries.filter (·.1 ≠ id)

/-- The number that the next session gets. -/
def nextId (d : Directory κ) : SessionId :=
  ⟨(d.enrolments + 1).toUInt32⟩

/-- Enrols a callback under `nextId`, in place of an entry that still has that number. There is no
    such entry until the counter has wrapped. -/
def enrol (d : Directory κ) (callback : κ) : Directory κ :=
  { entries :=
      (d.nextId, callback) ::
        if d.enrolments < numbers then d.entries else d.others d.nextId
    enrolments := d.enrolments + 1 }

/-- The record of an enrolment, made after it. -/
def enrolment (d : Directory κ) (id : SessionId) : Record :=
  .enrolled id d.size

/-- Strikes a session off. -/
def remove (d : Directory κ) (id : SessionId) : Directory κ :=
  { d with entries := d.others id }

/-- The record of a removal, made before it. -/
def removal (d : Directory κ) (id : SessionId) : Record :=
  if d.contains id then .removed id else .removedUnknown id

/-- Hands `bytes` to the callback `found` that was looked up for a session, if there was one. The
    callback is run by `call` in the world `w`, which it may change. -/
def handOver {ω : Type} (call : κ → Bytes → ω → ω × Except DeliveryError Unit) (w : ω)
    (found : Option κ) (id : SessionId) (bytes : Bytes) :
    ω × Except RoutingError Unit × List Record :=
  match found with
  | none => (w, .error (.notFound id), [.unknownSession id bytes.length])
  | some callback =>
    match call callback bytes w with
    | (w, .ok ()) => (w, .ok (), [])
    | (w, .error e) => (w, .error (.delivery id e), [.deliveryFailed id e.message])

/-- Looks up the callback of a session and hands `bytes` to it, with nothing in between. The world
    has the directory, which the callback may change, too. -/
def deliver {ω : Type} (directory : ω → Directory κ)
    (call : κ → Bytes → ω → ω × Except DeliveryError Unit) (w : ω) (id : SessionId)
    (bytes : Bytes) : ω × Except RoutingError Unit × List Record :=
  handOver call w ((directory w).callback? id) id bytes

end Directory

end SessionHub
