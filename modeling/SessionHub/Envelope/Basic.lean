import SessionHub.Ident

set_option autoImplicit false

/-! # Envelopes

An envelope is one message between a client and its peer: a call of a method on the peer's viewer,
the response or the error that answers it, or bytes. All but the bytes of a `binary` envelope, which
may go out as they are, are written as JSON. -/

namespace SessionHub

/-- A method to call and its arguments. -/
structure MethodCall where
  method : String
  args : List Json
  deriving BEq

/-- A message. The identity says which request it belongs to, if any. -/
inductive Envelope where
  | viewerMethod (id : Option MessageId) (call : MethodCall)
  | response (id : Option MessageId) (data : Json)
  | error (id : Option MessageId) (data : Json)
  | binary (id : Option MessageId) (data : Bytes)
  deriving BEq

/-! ## Kinds -/

/-- The kinds of envelopes. -/
inductive Kind where
  | viewerMethod
  | response
  | error
  | binary
  deriving DecidableEq, Repr

/-- The name of a kind in JSON. -/
def Kind.name : Kind → String
  | viewerMethod => "viewer_method"
  | response => "response"
  | error => "error"
  | binary => "binary"

/-- The kind of a given name. -/
def Kind.ofName? (name : String) : Option Kind :=
  [viewerMethod, response, error, binary].find? (·.name == name)

/-! ## Calls -/

namespace MethodCall

/-- A call as a JSON object. -/
def toJson (call : MethodCall) : Json :=
  .object [("method", .string call.method), ("args", .array call.args)]

/-- The JSON text of a call. -/
def write (call : MethodCall) : Bytes :=
  call.toJson.write

end MethodCall

/-! ## Envelopes -/

namespace Envelope

/-- The kind of an envelope. -/
def kind : Envelope → Kind
  | viewerMethod .. => .viewerMethod
  | response .. => .response
  | error .. => .error
  | binary .. => .binary

/-- The identity of the request that an envelope belongs to. -/
def id : Envelope → Option MessageId
  | viewerMethod id _ => id
  | response id _ => id
  | error id _ => id
  | binary id _ => id

/-- What an envelope carries, as JSON. -/
def data : Envelope → Json
  | viewerMethod _ call => call.toJson
  | response _ data => data
  | error _ data => data
  | binary _ data => .array (data.map fun b => .number (.natural b.toUInt64))

/-- A call for the request `id`. Named arguments are sent as one object after the others, and not
    at all if there are none. -/
def call (id : MessageId) (method : String) (args : List Json) (named : List (String × Json)) :
    Envelope :=
  viewerMethod (some id)
    { method, args := if named.isEmpty then args else args ++ [.object named] }

/-- An envelope as a JSON object. -/
def toJson (e : Envelope) : Json :=
  .object
    [ ("type", .string e.kind.name),
      ("id", match e.id with | some id => id.toJson | none => .null),
      ("data", e.data) ]

/-- The JSON text of an envelope. -/
def write (e : Envelope) : Bytes :=
  e.toJson.write

end Envelope

/-! ## Payloads -/

/-- What goes out in one frame: bytes as they are, or an envelope as text. -/
inductive Payload where
  | binary (data : Bytes)
  | text (envelope : Envelope)

namespace Payload

/-- Whether the payload goes out in a binary frame. -/
def isBinary : Payload → Bool
  | binary _ => true
  | text _ => false

/-- The bytes in the frame. -/
def bytes : Payload → Bytes
  | binary data => data
  | text envelope => envelope.write

end Payload

/-- How an envelope goes out. -/
def Envelope.payload : Envelope → Payload
  | binary _ data => .binary data
  | e => .text e

end SessionHub
