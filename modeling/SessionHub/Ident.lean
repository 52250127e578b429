import SessionHub.Json.Reader

set_option autoImplicit false

/-! # Identities

A session is known by the 32-bit number it got when it was registered, a request by a 64-bit number
that its reply repeats. In JSON both are plain numbers. -/

namespace SessionHub

/-- The identity of a session. -/
structure SessionId where
  val : UInt32
  deriving DecidableEq, Repr, Hashable, Inhabited

/-- The identity of a request among those of one client. -/
structure MessageId where
  val : UInt64
  deriving DecidableEq, Repr, Hashable, Inhabited

namespace SessionId

/-- How a session is shown. -/
def display (id : SessionId) : String :=
  toString id.val.toNat

/-- The JSON text of a session's identity. -/
def write (id : SessionId) : Bytes :=
  Digits.write id.val.toNat

/-- Reads a session's identity from the whole of a JSON text. -/
def read (s : Bytes) : Except Json.Failure SessionId := do
  let n ← Json.readAll
    (Json.readScalar (.unsigned .thirtyTwo) (Json.unsigned .thirtyTwo)) s
  .ok ⟨n.toUInt32⟩

end SessionId

namespace MessageId

/-- How a request is shown. -/
def display (id : MessageId) : String :=
  "msg-" ++ toString id.val.toNat

/-- The JSON number of a request. -/
def toJson (id : MessageId) : Json :=
  .number (.natural id.val)

/-- The JSON text of a request's identity. -/
def write (id : MessageId) : Bytes :=
  Digits.write id.val.toNat

/-- The identity that a JSON value is. -/
def ofJson (v : Json) : Except Json.Failure MessageId := do
  .ok ⟨(← Json.unsigned .sixtyFour v).toUInt64⟩

/-- Reads a request's identity from the whole of a JSON text. -/
def read (s : Bytes) : Except Json.Failure MessageId :=
  Json.readAll (Json.readScalar (.unsigned .sixtyFour) ofJson) s

end MessageId

end SessionHub
