import SessionHub.Envelope.Basic

set_option autoImplicit false

/-! # Reading envelopes

An envelope is read in two stages. The first reads the text, checks the kind as soon as it comes,
and keeps all else as it stands (`readTagged`). The second makes the envelope from what was kept
(`Tagged.envelope`), before anything after the value is looked at. An envelope has an object form,
with the members in any order and members of other names ignored, and an array form
`[kind, id, data]`. -/

namespace SessionHub

open Json (Failure Reader mismatch)

/-! ## First stage -/

/-- What an envelope holds beside its kind: the members of an object in text order, or the elements
    of an array. -/
inductive Content where
  | named (members : List (String × Json))
  | positional (elements : List Json)

/-- What the first stage gives. -/
structure Tagged where
  kind : Kind
  content : Content

/-- The kind that a value names. -/
def Kind.ofJson (v : Json) : Except Failure Kind :=
  match v with
  | .string name =>
    match Kind.ofName? name with
    | some kind => .ok kind
    | none => mismatch (.unknownKind name)
  | v => mismatch (.invalidType (.ofJson v) .kind)

/-- Reads the kind of an envelope. -/
def Kind.read : Reader Kind :=
  Json.readScalar .kind Kind.ofJson

namespace Tagged

/-- Reads one more member: the kind if it is called `type`, else a value to keep. -/
def readMember (acc : Option Kind × List (String × Json)) (name : String) (s : Bytes) :
    Except Failure ((Option Kind × List (String × Json)) × Bytes) :=
  if name = "type" then
    if acc.1.isSome then mismatch (.duplicateField "type")
    else do
      let (kind, rest) ← Kind.read (← Json.readColon s)
      .ok ((some kind, acc.2), rest)
  else do
    let (members, rest) ← Json.readMember (Json.read (Json.nestingLimit - 1)) acc.2 name s
    .ok ((acc.1, members), rest)

/-- Reads the object form after its opening bracket. -/
def readObject (s : Bytes) : Except Failure (Tagged × Bytes) := do
  let ((kind, members), rest) ← Json.readObject readMember (none, []) s
  match kind with
  | some kind => .ok (⟨kind, .named members⟩, rest)
  | none => mismatch (.missingField "type")

/-- Reads the array form after its opening bracket. -/
def readArray (s : Bytes) : Except Failure (Tagged × Bytes) := do
  match ← Json.nextElement true s with
  | .closed _ => mismatch (.missingField "type")
  | .element s =>
    let (kind, rest) ← Kind.read s
    let (elements, rest) ←
      Json.readElements (Json.read (Json.nestingLimit - 1)) (rest.length + 1) false rest
    .ok (⟨kind, .positional elements⟩, rest)

/-- Reads an envelope as far as the first stage goes. -/
def read : Reader Tagged :=
  Json.dispatch (fun v => mismatch (.invalidType (.ofJson v) .envelope)) readArray readObject

end Tagged

/-! ## Second stage -/

/-- A member that may stand once: `field?` is its value so far. -/
def once {α : Type} (name : String) (field? : Option α) (value : Except Failure α) :
    Except Failure (Option α) :=
  if field?.isSome then mismatch (.duplicateField name) else some <$> value

/-- The elements of an array. -/
def Json.elements (v : Json) : Except Failure (List Json) :=
  match v with
  | .array elements => .ok elements
  | v => mismatch (.invalidType (.ofJson v) .sequence)

namespace MethodCall

/-- Takes one more member of the object form of a call. -/
def takeMember (acc : Option String × Option (List Json)) (member : String × Json) :
    Except Failure (Option String × Option (List Json)) :=
  if member.1 = "method" then do
    .ok (← once "method" acc.1 (Json.stringOf member.2), acc.2)
  else if member.1 = "args" then do
    .ok (acc.1, ← once "args" acc.2 (member.2.elements.map Json.canonicalElements))
  else .ok acc

/-- The call whose members were read. -/
def ofFields (method : Option String) (args : Option (List Json)) : Except Failure MethodCall :=
  match method with
  | some method => .ok { method, args := args.getD [] }
  | none => mismatch (.missingField "method")

/-- The call that a value is: an object with a `method` and possibly `args`, or an array of them. -/
def ofJson (v : Json) : Except Failure MethodCall :=
  match v with
  | .object members => do
    let (method, args) ← members.foldlM takeMember (none, none)
    ofFields method args
  | .array [] => mismatch (.invalidLength 0 .call)
  | .array [method] => do .ok { method := ← Json.stringOf method, args := [] }
  | .array (method :: args :: more) => do
    let method ← Json.stringOf method
    let args ← args.elements
    if more.isEmpty then .ok { method, args := Json.canonicalElements args }
    else mismatch (.invalidLength (2 + more.length) .pair)
  | v => mismatch (.invalidType (.ofJson v) .call)

end MethodCall

/-- The byte that a value is. -/
def byteOf (v : Json) : Except Failure UInt8 := do
  .ok (← Json.unsigned .eight v).toUInt8

/-- The byte string that a value is: an array of numbers. -/
def bytesOf (v : Json) : Except Failure Bytes := do
  (← v.elements).mapM byteOf

/-- The identity that a value is: a number, or null for none. -/
def identOf (v : Json) : Except Failure (Option MessageId) :=
  match v with
  | .null => .ok none
  | v => some <$> MessageId.ofJson v

namespace Envelope

/-- The envelope of a given kind with a given identity and given data. -/
def ofData (kind : Kind) (id : Option MessageId) (data : Json) : Except Failure Envelope :=
  match kind with
  | .viewerMethod => .viewerMethod id <$> MethodCall.ofJson data
  | .response => .ok (.response id data.canonical)
  | .error => .ok (.error id data.canonical)
  | .binary => .binary id <$> bytesOf data

/-- Whether envelopes of a kind need not have data, which is then null. -/
def dataOptional : Kind → Bool
  | .response | .error => true
  | .viewerMethod | .binary => false

/-- The array form whose length is wrong when an envelope of a kind has no data. -/
def form : Kind → Json.Form
  | .viewerMethod => .viewerMethod
  | .binary => .binary
  | .response | .error => .pair

/-- What the members of an object have given so far: the identity, and the envelope made from the
    data without it. -/
abbrev Fields := Option (Option MessageId) × Option Envelope

/-- The envelope `e` with the identity `id`. -/
def withId (id : Option MessageId) : Envelope → Envelope
  | viewerMethod _ call => viewerMethod id call
  | response _ data => response id data
  | error _ data => error id data
  | binary _ data => binary id data

/-- Takes one more member of the object form. -/
def takeMember (kind : Kind) (acc : Fields) (member : String × Json) : Except Failure Fields :=
  if member.1 = "id" then do
    .ok (← once "id" acc.1 (identOf member.2), acc.2)
  else if member.1 = "data" then do
    .ok (acc.1, ← once "data" acc.2 (ofData kind none member.2))
  else .ok acc

/-- The envelope that the members of an object make. -/
def ofMembers (kind : Kind) (members : List (String × Json)) : Except Failure Envelope := do
  let (id, e) ← members.foldlM (takeMember kind) (none, none)
  match e with
  | some e => .ok (e.withId (id.getD none))
  | none =>
    if dataOptional kind then ofData kind (id.getD none) .null
    else mismatch (.missingField "data")

/-- The envelope that the elements of an array after the kind make. -/
def ofElements (kind : Kind) (elements : List Json) : Except Failure Envelope := do
  let id ← match elements with
    | [] => .ok none
    | v :: _ => identOf v
  match elements with
  | _ :: data :: more =>
    let e ← ofData kind id data
    if more.isEmpty then .ok e else mismatch (.invalidLength (2 + more.length) .pair)
  | _ =>
    if dataOptional kind then ofData kind id .null
    else mismatch (.invalidLength 1 (form kind))

end Envelope

/-- The envelope made from what the first stage kept. -/
def Tagged.envelope (t : Tagged) : Except Failure Envelope :=
  match t.content with
  | .named members => Envelope.ofMembers t.kind members
  | .positional elements => Envelope.ofElements t.kind elements

namespace Envelope

/-- Reads an envelope from the whole of a text. -/
def read (s : Bytes) : Except Failure Envelope := do
  let (tagged, rest) ← Tagged.read s
  let e ← tagged.envelope
  Json.readEnd rest
  .ok e

/-- The wording of a failure to read an envelope. -/
def refusal (failure : Failure) : String :=
  "malformed envelope: " ++ failure.message

end Envelope

end SessionHub
