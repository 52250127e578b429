import SessionHub.Text.Blank

set_option autoImplicit false

/-! # Opening a connection

A connection is opened by an HTTP request to one path. The request has to say, in its headers, that
it is to be upgraded to a WebSocket of version 13. -/

namespace SessionHub

/-- An HTTP request. -/
structure HttpRequest where
  method : String
  /-- What is asked for: a path, or a whole address, or an authority, or `*`. -/
  target : String
  headers : List (String × String)

namespace HttpRequest

/-- Where connections are opened. -/
def endpoint : String := "/ws"

/-- The start of a target, up to its query or its fragment. -/
def upToQuery (target : List Char) : List Char :=
  target.takeWhile fun c => c ≠ '?' ∧ c ≠ '#'

/-- Whether `c` can stand in the name of a scheme. -/
def isSchemeChar (c : Char) : Bool :=
  c.isAlphanum || ['+', '-', '.', '~'].contains c

/-- What follows `scheme://` in a whole address. -/
def afterScheme? (target : List Char) : Option (List Char) :=
  match target.dropWhile isSchemeChar with
  | ':' :: '/' :: '/' :: rest => some rest
  | _ => none

/-- The path alone. In a whole address it follows the authority and is `/` if there is none; an
    authority has no path. -/
def path (r : HttpRequest) : String :=
  let target := r.target.toList
  if target = ['*'] ∨ target.head? = some '/' then String.ofList (upToQuery target)
  else
    match afterScheme? target with
    | none => ""
    | some rest =>
      match (upToQuery rest).dropWhile (· ≠ '/') with
      | [] => "/"
      | path => String.ofList path

/-- The first header of a given name, in lower case. The case of the name does not matter. -/
def header? (r : HttpRequest) (name : String) : Option String :=
  (r.headers.find? fun h => Text.asciiLower h.1 = name).map fun h => Text.asciiLower h.2

end HttpRequest

/-- Why no connection is opened. -/
inductive HandshakeError where
  /-- The path is another one. -/
  | unknownPath
  /-- The method is not `GET`. -/
  | wrongMethod
  /-- A header is missing or says something else. -/
  | badHeader
  /-- The transport cannot be upgraded. -/
  | notUpgradable
  deriving DecidableEq, Repr

/-- The HTTP status of an error. -/
def HandshakeError.status : HandshakeError → Nat
  | unknownPath => 404
  | wrongMethod => 405
  | badHeader => 400
  | notUpgradable => 426

/-- The HTTP status of a connection that is opened. -/
def switchingProtocols : Nat := 101

/-- Whether one text occurs in another. -/
def occursIn (t s : List Char) : Bool :=
  t.isPrefixOf s || match s with
    | [] => false
    | _ :: s => occursIn t s

/-- Whether the headers ask for a WebSocket. -/
def HttpRequest.asksForUpgrade (r : HttpRequest) : Bool :=
  (r.header? "connection").any (fun v => occursIn "upgrade".toList v.toList)
    && r.header? "upgrade" = some "websocket"
    && (r.header? "sec-websocket-key").isSome
    && r.header? "sec-websocket-version" = some "13"

/-- Whether a connection is opened, on a transport that can be upgraded or not. -/
def HttpRequest.handshake (r : HttpRequest) (upgradable : Bool) : Except HandshakeError Unit :=
  if r.path ≠ HttpRequest.endpoint then .error .unknownPath
  else if r.method ≠ "GET" then .error .wrongMethod
  else if !r.asksForUpgrade then .error .badHeader
  else if !upgradable then .error .notUpgradable
  else .ok ()

/-- The HTTP status that a request is answered with. -/
def HttpRequest.status (r : HttpRequest) (upgradable : Bool) : Nat :=
  match r.handshake upgradable with
  | .ok () => switchingProtocols
  | .error e => e.status

end SessionHub
