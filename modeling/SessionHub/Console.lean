import SessionHub.Engine.Sources
import SessionHub.Hub.Driver
import SessionHub.Hub.Session
import SessionHub.Settings.Basic

set_option autoImplicit false

/-! # Consoles

A console is a hub with one session. Each line that is typed is a request of that session, and what
is delivered to it are the answers. One source is there from the start. -/

namespace SessionHub

/-- A console. -/
structure Console where
  hub : Hub Sources
  session : Nat
  /-- The mailbox of the session. -/
  mailbox : Nat

namespace Console

/-- What the source holds that is there from the start. -/
def seed : Bytes :=
  Bytes.ofString "x,y,label\n1,2.5,a\n2,3.1,b\n3,1.7,c\n"

/-- How many steps the driver can take before it has nothing to do: two for a command, two for a
    response, and two for the poll that gives it out. -/
def budget (h : Hub Sources) : Nat :=
  2 * h.queue.length + 4 * (h.queue.length + h.engine.queued.length) + 4

/-- Lets the driver do what there is to do. -/
def work (c : Console) : Console :=
  { c with hub := c.hub.run Sources.engine (budget c.hub) }

/-- A console as the settings have it. -/
def ofSettings (s : Settings) : Console :=
  let hub : Hub Sources :=
    { engine := ({} : Sources).host s.dataSource seed
      mode := s.mode
      log := [Sources.hosting s.dataSource seed] }
  let (hub, session, mailbox) := hub.openMailbox
  work { hub, session, mailbox }

/-- Takes in a line. -/
def enter (c : Console) (line : Bytes) : Console :=
  work { c with hub := (c.hub.sendPayload c.session (.binary line)).1 }

/-- Drops the session and the last handle of the hub, which then stops. -/
def leave (c : Console) : Console :=
  work { c with hub := (c.hub.drop c.session).letGo }

/-- The answers that came in, and the console without them. -/
def takeAnswers (c : Console) : List Bytes × Console :=
  let (answers, hub) := c.hub.readAll c.mailbox
  (answers, { c with hub })

/-- What was logged, and the console without it. -/
def takeRecords (c : Console) : List Record × Console :=
  (c.hub.log.reverse, { c with hub.log := [] })

end Console

end SessionHub
