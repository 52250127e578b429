import SessionHub.Directory
import SessionHub.Envelope.Decode

set_option autoImplicit false

/-! # Callers

A `Caller` issues method calls to a viewer and matches replies with calls. Each call has a
`MessageId` of its own, which its reply repeats. While a call is pending, `table` maps its
`MessageId` to its `Ticket`, the handle at which the reply is awaited. The payload of a call goes
out in a `Send` of its own, some time after the call was issued. -/

namespace SessionHub

/-! ## Errors -/

/-- Why a call gives no value. -/
inductive CallError where
  /-- Nothing is there that would run the send. -/
  | noScheduler
  | unsupported (operation : String)
  /-- The caller was terminated while the call was outstanding. -/
  | cancelled
  /-- The caller was terminated before the call. -/
  | terminated
  | timeout
  | atCapacity
  /-- The viewer answered with an error. -/
  | remote (detail : String)
  /-- The call could not be sent. -/
  | send (reason : String)
  deriving DecidableEq, Repr

/-- The wording of an error. -/
def CallError.message : CallError → String
  | noScheduler => "no scheduler available to host the request"
  | unsupported operation => "`" ++ operation ++ "` is not supported by this client"
  | cancelled => "request cancelled"
  | terminated => "client terminated"
  | timeout => "request timed out"
  | atCapacity => "too many pending requests"
  | remote detail => "remote error: " ++ detail
  | send reason => "failed to send request: " ++ reason

/-- What a viewer says of an error: a string as it is, anything else as JSON text. -/
def Json.detail : Json → String
  | .string s => s
  | v => v.text

/-! ## Tickets and sends -/

/-- What a call comes to. -/
abbrev Reply := Except CallError Json

/-- The ticket of a call: its result, once that is known, and whether the ticket is still held. -/
structure Ticket where
  id : MessageId
  result : Option Reply := none
  held : Bool := true

/-- Whether the ticket is held and has no result yet. -/
def Ticket.waiting (t : Ticket) : Bool :=
  t.held && t.result.isNone

/-- A payload that has to go out, and the call that it belongs to. -/
structure Send where
  id : MessageId
  payload : Payload

/-! ## Callers -/

/-- A caller. Outstanding calls and sends are kept newest first; a ticket is known by its place in
    the order of issue. -/
structure Caller where
  /-- Which ticket each outstanding call has. -/
  table : List (MessageId × Nat) := []
  /-- Whether the caller was terminated. -/
  closed : Bool := false
  tickets : Array Ticket := #[]
  /-- What has not been handed to the outward path yet. -/
  sends : List Send := []
  /-- The identity of the next call. -/
  next : UInt64 := 1
  /-- How many hold the caller. -/
  holders : Nat := 1

namespace Caller

/-- How many calls may be outstanding. -/
def limit : Nat := 10000

/-- How many calls are outstanding. -/
def pending (c : Caller) : Nat :=
  c.table.length

/-! ## The table -/

/-- Whether ticket `k` is waiting. -/
def isWaiting (c : Caller) (k : Nat) : Bool :=
  c.tickets[k]?.any Ticket.waiting

/-- Writes a result on ticket `k`. -/
def settle (c : Caller) (k : Nat) (r : Reply) : Caller :=
  { c with tickets := c.tickets.modify k fun t => { t with result := some r } }

/-- Writes a result on ticket `k` if it is waiting. -/
def offer (c : Caller) (k : Nat) (r : Reply) : Caller :=
  if c.isWaiting k then c.settle k r else c

/-- Takes a call out of the table, without a result. Once `next` has wrapped, tickets of two calls
    can bear one `MessageId`: giving the older ticket up then also takes out the entry of the newer
    call, whose ticket is left waiting here, while its completion channel would be dropped and so
    resolve it to `cancelled`. It takes `2 ^ 64` calls of one caller to get there. -/
def abandon (c : Caller) (id : MessageId) : Caller :=
  { c with table := c.table.filter (·.1 ≠ id) }

/-- Completes an outstanding call. The answer says whether there was one of that identity. -/
def complete (c : Caller) (id : MessageId) (r : Reply) : Caller × Bool × List Record :=
  match c.table.lookup id with
  | none => (c, false, [])
  | some k =>
    ((c.abandon id).offer k r, true, if c.isWaiting k then [] else [.nobodyWaiting id])

/-- Puts a call into the table, with a ticket of its own. A call that still has the identity is
    cancelled. -/
def insert (c : Caller) (id : MessageId) : Caller × List Record :=
  let k := c.tickets.size
  match c.table.lookup id with
  | none => ({ c with table := (id, k) :: c.table, tickets := c.tickets.push { id } }, [])
  | some old =>
    let c := (c.abandon id).offer old (.error .cancelled)
    ({ c with table := (id, k) :: c.table, tickets := c.tickets.push { id } }, [.idReused id])

/-- Cancels all outstanding calls and refuses new ones. The answer says how many calls were
    cancelled. -/
def terminate (c : Caller) : Caller × Nat × List Record :=
  let ids := (c.table.map (·.1)).mergeSort (·.val ≤ ·.val)
  let cancelled := c.table.length
  let c := c.table.foldl (fun c (_, k) => c.offer k (.error .cancelled)) c
  ({ c with table := [], closed := true }, cancelled,
    ids.map .callCancelled ++ if cancelled = 0 then [] else [.callerTerminated cancelled])

/-! ## Calls -/

/-- Issues a call. The answer is the place of its ticket. The identity is used up also if the call
    is then refused, unless nothing could run the send. -/
def issue (c : Caller) (scheduled : Bool) (method : String) (args : List Json)
    (named : List (String × Json)) : Caller × Except CallError Nat × List Record :=
  if !scheduled then (c, .error .noScheduler, [.callWithoutScheduler method])
  else
    let id : MessageId := ⟨c.next⟩
    let c := { c with next := c.next + 1 }
    if c.closed then (c, .error .terminated, [])
    else if limit ≤ c.pending then (c, .error .atCapacity, [.tooManyCalls id limit])
    else
      let k := c.tickets.size
      let (c, records) := c.insert id
      let send : Send := ⟨id, (Envelope.call id method args named).payload⟩
      ({ c with sends := send :: c.sends }, .ok k, records ++ [.callIssued id method])

/-- Asks the viewer for its configuration. -/
def save (c : Caller) (scheduled : Bool) : Caller × Except CallError Nat × List Record :=
  c.issue scheduled "save" [] []

/-- What becomes of an operation on tables: no caller supports any. -/
def openTable (_ : Caller) : Except CallError Unit :=
  .error (.unsupported "open_table")

/-- The table of a caller: no caller has one. -/
def tableHandle (_ : Caller) : Except CallError Unit :=
  .error (.unsupported "table")

/-! ## Replies -/

/-- Takes in an envelope. The answer says whether it completed a call. -/
def answer (c : Caller) (e : Envelope) : Caller × Bool × List Record :=
  let reply (id : MessageId) (r : Reply) :=
    let (c, found, records) := c.complete id r
    (c, found, if found then records else [.staleAnswer id])
  match e with
  | .response (some id) data => reply id (.ok data)
  | .error (some id) data => reply id (.error (.remote data.detail))
  | e => (c, false, [.answersNothing e.kind e.id])

/-- Takes in the bytes of an envelope. The answer says whether it completed a call. -/
def receive (c : Caller) (bytes : Bytes) : Caller × Bool × List Record :=
  match Envelope.read bytes with
  | .ok e => c.answer e
  | .error failure => (c, false, [.unreadableMessage (Envelope.refusal failure)])

/-! ## Sends -/

/-- Notes how a send ended. A call that could not be sent is completed with that error. -/
def sendEnded (c : Caller) (id : MessageId) : Except DeliveryError Unit → Caller × List Record
  | .ok () => (c, [])
  | .error e =>
    let (c, _, records) := c.complete id (.error (.send e.message))
    (c, .sendFailed id e.message :: records)

/-! ## Tickets -/

/-- Whether ticket `k` is held. -/
def holds (c : Caller) (k : Nat) : Bool :=
  c.tickets[k]?.any (·.held)

/-- Gives ticket `k` up. Its call is not pending any more. What `abandon` says of two calls with one
    `MessageId` applies. -/
def release (c : Caller) (k : Nat) : Caller :=
  match c.tickets[k]? with
  | some t =>
    if t.held then
      { c with tickets := c.tickets.modify k fun t => { t with held := false } }.abandon t.id
    else c
  | none => c

/-- The result of ticket `k`, if it has one that was not taken yet. -/
def result? (c : Caller) (k : Nat) : Option Reply :=
  c.tickets[k]?.bind fun t => if t.held then t.result else none

/-- Takes the result from ticket `k`, if it is there. -/
def collect (c : Caller) (k : Nat) : Caller × Option Reply :=
  match c.result? k with
  | some r => (c.release k, some r)
  | none => (c, none)

/-- Ends the wait at ticket `k` when its time is over: with the result if it is there. -/
def expire (c : Caller) (k : Nat) : Caller × Option Reply × List Record :=
  match c.tickets[k]? with
  | none => (c, none, [])
  | some t =>
    if !t.held then (c, none, [])
    else match t.result with
      | some r => (c.release k, some r, [])
      | none =>
        ((c.settle k (.error .timeout)).release k, some (.error .timeout), [.callTimedOut t.id])

/-! ## Holders -/

/-- Adds a holder of the caller. -/
def retain (c : Caller) : Caller :=
  { c with holders := c.holders + 1 }

/-- Drops one of the `holders` of the caller. When the last one is dropped, the caller
    terminates. -/
def letGo (c : Caller) : Caller × List Record :=
  let c := { c with holders := c.holders - 1 }
  if c.holders = 0 then
    let (c, _, records) := c.terminate
    (c, records)
  else (c, [])

end Caller

end SessionHub
