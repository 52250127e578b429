import SessionHub.Hub.Basic

set_option autoImplicit false

/-! # Sessions

A session owns one place in the directory, from its opening until it is closed, and one of the
handles that let commands be sent, until it is dropped. A session is known by its place in the
order of opening. -/

namespace SessionHub

/-- A session in a record. -/
def Session.describe (s : Session) : String :=
  "Session \x7b id: " ++ s.id.describe ++ ", closed: " ++ toString s.closed ++ " \x7d"

namespace Hub

variable {σ : Type}

/-- Opens a session that is reached by `callback`. -/
def openWith (h : Hub σ) (callback : Callback) : Hub σ × Nat :=
  let k := h.sessions.size
  let (h, id) := h.enrol callback
  ({ h with sessions := h.sessions.push { id } }.retain, k)

/-- Opens a session that is reached by a mailbox of its own. The answer is the session and the
    mailbox. -/
def openMailbox (h : Hub σ) : Hub σ × Nat × Nat :=
  let m := h.mailboxes.size
  let (h, k) := { h with mailboxes := h.mailboxes.push {} }.openWith (.mailbox m)
  (h, k, m)

/-- Sends a command for session `k`, which must be open. -/
def sendFor (h : Hub σ) (k : Nat) (command : SessionId → Command) :
    Hub σ × Except HubError Unit :=
  match h.sessions[k]? with
  | none => (h, .error .closed)
  | some s => if s.closed then (h, .error .closed) else h.send (command s.id)

/-- Sends a request of session `k`. -/
def request (h : Hub σ) (k : Nat) (bytes : Bytes) : Hub σ × Except HubError Unit :=
  h.sendFor k (.request · bytes)

/-- Sends a poll for session `k`. -/
def poll (h : Hub σ) (k : Nat) : Hub σ × Except HubError Unit :=
  h.sendFor k fun _ => .poll

/-- Closes session `k`, unless it is closed: strikes it off and has the engine release what it
    holds for it. -/
def close (h : Hub σ) (k : Nat) : Hub σ :=
  match h.sessions[k]? with
  | none => h
  | some s =>
    if s.closed then h
    else
      let h := { h with sessions := h.sessions.modify k fun s => { s with closed := true } }
      let (h, _) := h.strike s.id
      let h := if h.isRunning then (h.send (.close s.id)).1 else h
      h.note (.sessionClosed s.id)

/-- Drops session `k`. -/
def drop (h : Hub σ) (k : Nat) : Hub σ :=
  (h.close k).letGo

/-- Sends a payload as a request of session `k`, and lets the engine work. -/
def sendPayload (h : Hub σ) (k : Nat) (p : Payload) : Hub σ × Except DeliveryError Unit :=
  let refuse (e : HubError) : Except DeliveryError Unit := .error (.other e.message)
  match h.request k p.bytes with
  | (h, .error e) => (h, refuse e)
  | (h, .ok ()) =>
    match h.poll k with
    | (h, .error e) => (h, refuse e)
    | (h, .ok ()) => (h, .ok ())

end Hub

end SessionHub
