import SessionHub.Caller.Basic

set_option autoImplicit false

/-! # Callers in time

A caller together with the path its payloads take, and a clock. The clock stands still while there
is something to do, and goes from one due date to the next while a result is awaited. What there is
to do is done in rounds: errands that have come due, and then sends. The clock and the results of
tickets are only looked at between two rounds. -/

namespace SessionHub

/-- Where payloads go. -/
inductive Sink where
  /-- To a receiver, at once. -/
  | direct
  /-- To a receiver after a delay, or, after the delay, nowhere. -/
  | slow (delay : Nat) (failure : Option String)
  /-- Nowhere. -/
  | broken (reason : String)

/-- What can be due. -/
inductive Errand where
  /-- A payload that the path still holds. -/
  | send (send : Send)
  /-- A reply that comes in by itself. Its errand counts among the `holders` until then. -/
  | reply (envelope : Envelope)
  /-- A reply that has still to set out and then takes some milliseconds. -/
  | replyAfter (delay : Nat) (envelope : Envelope)

/-- Whether an errand brings a reply. -/
def Errand.bringsReply : Errand → Bool
  | send _ => false
  | reply _ | replyAfter .. => true

/-- A caller in time. Payloads that went out and records are kept newest first, errands in the
    order in which they were set or came due. -/
structure TimedCaller where
  caller : Caller := {}
  sink : Sink := .direct
  /-- Whether the payloads that go out are received. -/
  receiving : Bool := true
  now : Nat := 0
  /-- What will be due, and when. -/
  errands : List (Nat × Errand) := []
  /-- What has come due. -/
  due : List Errand := []
  sent : List Payload := []
  records : List Record := []

namespace TimedCaller

/-- The number of holders of the caller, those of errands aside. -/
def owners (t : TimedCaller) : Nat :=
  t.caller.holders - (t.errands.countP (·.2.bringsReply) + t.due.countP (·.bringsReply))

/-- Does something to the caller. -/
def act {α : Type} (t : TimedCaller) (r : Caller × α × List Record) : TimedCaller × α :=
  ({ t with caller := r.1, records := r.2.2.reverse ++ t.records }, r.2.1)

/-- Does something to the caller that has no answer. -/
def change (t : TimedCaller) (r : Caller × List Record) : TimedCaller :=
  { t with caller := r.1, records := r.2.reverse ++ t.records }

/-! ## Payloads on their way -/

/-- Brings a payload to the receiver. -/
def transmit (t : TimedCaller) (send : Send) : TimedCaller :=
  if t.receiving then { t with sent := send.payload :: t.sent }
  else t.change (t.caller.sendEnded send.id (.error .closed))

/-- Brings a payload to its end. -/
def conclude (t : TimedCaller) (send : Send) : TimedCaller :=
  match t.sink with
  | .direct | .slow _ none => t.transmit send
  | .slow _ (some reason) | .broken reason =>
    t.change (t.caller.sendEnded send.id (.error (.other reason)))

/-- Brings in a reply. -/
def bringReply (t : TimedCaller) (e : Envelope) : TimedCaller :=
  let (t, _) := t.act (t.caller.answer e)
  t.change t.caller.letGo

/-- Sets an errand that will be due in `delay` milliseconds. -/
def set (t : TimedCaller) (delay : Nat) (e : Errand) : TimedCaller :=
  { t with errands := t.errands ++ [(t.now + delay, e)] }

/-- Does an errand. -/
def perform (t : TimedCaller) : Errand → TimedCaller
  | .send send => t.conclude send
  | .reply e | .replyAfter 0 e => t.bringReply e
  | .replyAfter delay e => t.set delay (.reply e)

/-- Hands a payload to the path. -/
def hand (t : TimedCaller) (send : Send) : TimedCaller :=
  match t.sink with
  | .slow (delay + 1) _ => t.set (delay + 1) (.send send)
  | _ => t.conclude send

/-! ## Rounds -/

/-- Does the first `n` errands that have come due. -/
def performFirst (t : TimedCaller) (n : Nat) : TimedCaller :=
  (t.due.take n).foldl perform { t with due := t.due.drop n }

/-- Hands the oldest `n` sends to the path. -/
def handFirst (t : TimedCaller) (n : Nat) : TimedCaller :=
  let waiting := t.caller.sends.reverse
  (waiting.take n).foldl hand
    { t with caller := { t.caller with sends := (waiting.drop n).reverse } }

/-- How much there is to do now. -/
def work (t : TimedCaller) : Nat :=
  t.due.length + t.caller.sends.length

/-- Does the first `n` things that there are to do, errands before sends. -/
def doFirst (t : TimedCaller) (n : Nat) : TimedCaller :=
  (t.performFirst n).handFirst (n - t.due.length)

/-- Does all that can be done now. -/
def catchUp (t : TimedCaller) : TimedCaller :=
  t.doFirst t.work

/-- Looks at the clock for errands that have come due, by their dates. -/
def lookAtClock (t : TimedCaller) : TimedCaller :=
  let due := (t.errands.filter (·.1 ≤ t.now)).mergeSort (·.1 ≤ ·.1)
  { t with due := t.due ++ due.map (·.2), errands := t.errands.filter (t.now < ·.1) }

/-- How many things are done in a round at most. -/
def roundLength : Nat := 61

/-- A round. -/
def round (t : TimedCaller) : TimedCaller :=
  (t.doFirst roundLength).lookAtClock

/-! ## The clock -/

/-- The next due date. -/
def nextDue? (t : TimedCaller) : Option Nat :=
  (t.errands.map (·.1)).min?

/-- Puts the clock forward. -/
def putForward (t : TimedCaller) (now : Nat) : TimedCaller :=
  { t with now }

/-- Lets `ms` milliseconds go by, and then one round. What comes due in that time has still to be
    done. -/
def advance (t : TimedCaller) (ms : Nat) : TimedCaller :=
  (t.putForward (t.now + ms)).round

/-- Ends the wait at ticket `k` because its time is over. -/
def expire (t : TimedCaller) (k : Nat) : TimedCaller × Option Reply :=
  t.act (t.caller.expire k)

/-- Ends the wait at ticket `k` at the deadline. Whatever is due then comes too late. -/
def expireAt (t : TimedCaller) (deadline k : Nat) : TimedCaller × Option Reply :=
  (t.putForward deadline).lookAtClock.expire k

/-- Waits at ticket `k` until the result is there or the deadline has come. When there is nothing to
    do, the clock goes on to the next due date. A send is handed over, comes due and is concluded,
    so `fuel` is enough if it is three for each of them and for each errand. -/
def waitUntil (deadline k : Nat) : Nat → TimedCaller → TimedCaller × Option Reply
  | fuel, t =>
    match t.caller.collect k with
    | (caller, some r) => ({ t with caller }, some r)
    | (_, none) =>
      match fuel with
      | 0 => t.expireAt deadline k
      | fuel + 1 =>
        if t.work ≠ 0 then waitUntil deadline k fuel t.round
        else
          match t.nextDue? with
          | none => t.expireAt deadline k
          | some due =>
            if due < deadline then waitUntil deadline k fuel (t.putForward due).lookAtClock
            else t.expireAt deadline k

/-- Lets a reply come in after a delay. There are some rounds before its ticket is awaited. -/
def expect (t : TimedCaller) (delay : Nat) (e : Envelope) : TimedCaller :=
  let t : TimedCaller :=
    { t with caller := t.caller.retain, due := t.due ++ [.replyAfter delay e] }
  t.round.round.round.round

/-- Waits at ticket `k` for at most `timeout` milliseconds. A result that is there already is taken
    even if there is no time to wait. -/
def await (t : TimedCaller) (k timeout : Nat) : TimedCaller × Option Reply :=
  match t.caller.collect k with
  | (caller, some r) => ({ t with caller }, some r)
  | (_, none) =>
    if timeout = 0 then t.expire k
    else waitUntil (t.now + timeout) k (3 * (t.work + t.errands.length)) t

end TimedCaller

end SessionHub
