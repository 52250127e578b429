import SessionHub.Network.Connection
import SessionHub.Proofs.Hub.Mailboxes

set_option autoImplicit false

/-! # What a turn of a loop does

The loop of a connection does one thing in a turn: it writes a delivery or a payload, or it takes in
what comes next from the peer, or it ends. What it does to the hub are moves of the hub (`Turn`,
`serve_turn`). -/

namespace SessionHub

/-- The bytes of a binary frame. -/
def Frame.binary? : Frame → Option Bytes
  | .binary bytes => some bytes
  | _ => none

/-- The bytes of a text frame. -/
def Frame.text? : Frame → Option Bytes
  | .text bytes => some bytes
  | _ => none

namespace Connection

variable {σ : Type}

/-! ## What is seen of a connection -/

/-- What was written to the peer in binary frames, in order. -/
def binaries (c : Connection) : List Bytes :=
  c.role.written.reverse.filterMap Frame.binary?

/-- What was written to the peer in text frames, in order. -/
def texts (c : Connection) : List Bytes :=
  c.role.written.reverse.filterMap Frame.text?

theorem binaries_congr {c c' : Connection} (same : c'.role.written = c.role.written) :
    c'.binaries = c.binaries := by
  rw [binaries, same, binaries]

theorem texts_congr {c c' : Connection} (same : c'.role.written = c.role.written) :
    c'.texts = c.texts := by
  rw [texts, same, texts]

theorem binaries_of_written {c c' : Connection} {f : Frame}
    (more : c'.role.written = f :: c.role.written) :
    c'.binaries = c.binaries ++ f.binary?.toList := by
  rw [binaries, more, List.reverse_cons, List.filterMap_append, binaries]
  cases f <;> rfl

theorem texts_of_written {c c' : Connection} {f : Frame}
    (more : c'.role.written = f :: c.role.written) : c'.texts = c.texts ++ f.text?.toList := by
  rw [texts, more, List.reverse_cons, List.filterMap_append, texts]
  cases f <;> rfl

/-- What the loop takes in with its next turn. -/
def arrival? (h : Hub σ) (c : Connection) : Option Arrival :=
  if c.role.looping ∧ h.unread c.mailbox = [] ∧ ¬ h.isCutOff c.mailbox ∧ c.role.outbound = [] then
    c.role.inbound.head?
  else none

/-- The binary frame that the loop reads with its next turn. A frame over the limit is not read. -/
def binaryRead? (h : Hub σ) (c : Connection) : Option Bytes :=
  (c.arrival? h).bind fun
    | .binary bytes => if bytes.length ≤ frameLimit then some bytes else none
    | _ => none

/-- The text frame that the loop reads with its next turn. -/
def textRead? (h : Hub σ) (c : Connection) : Option Bytes :=
  (c.arrival? h).bind fun
    | .text bytes => if bytes.length ≤ frameLimit then some bytes else none
    | _ => none

theorem reads_nothing {h : Hub σ} {c : Connection} (nothing : c.arrival? h = none) :
    c.binaryRead? h = none ∧ c.textRead? h = none := by
  simp [binaryRead?, textRead?, nothing]

theorem textRead?_of_binary {h : Hub σ} {c : Connection} {bytes : Bytes}
    (reads : c.binaryRead? h = some bytes) : c.textRead? h = none := by
  unfold binaryRead? at reads
  unfold textRead?
  cases ha : c.arrival? h with
  | none => rfl
  | some a => cases a <;> simp [ha] at reads ⊢

theorem binaryRead?_of_text {h : Hub σ} {c : Connection} {bytes : Bytes}
    (reads : c.textRead? h = some bytes) : c.binaryRead? h = none := by
  cases hb : c.binaryRead? h with
  | none => rfl
  | some bytes' =>
    rw [textRead?_of_binary hb] at reads
    cases reads

theorem arrival?_of_unread {h : Hub σ} {c : Connection} (waits : h.unread c.mailbox ≠ []) :
    c.arrival? h = none :=
  if_neg fun all => waits all.2.1

theorem arrival?_of_outbound {h : Hub σ} {c : Connection} (waits : c.role.outbound ≠ []) :
    c.arrival? h = none :=
  if_neg fun all => waits all.2.2.2

theorem looping_of_arrival {h : Hub σ} {c : Connection} {a : Arrival}
    (arrives : c.arrival? h = some a) : c.role.looping := by
  unfold arrival? at arrives
  split at arrives
  · next all => exact all.1
  · cases arrives

theorem looping_of_binaryRead {h : Hub σ} {c : Connection} {bytes : Bytes}
    (reads : c.binaryRead? h = some bytes) : c.role.looping := by
  obtain ⟨a, arrives, -⟩ := Option.bind_eq_some_iff.mp reads
  exact looping_of_arrival arrives

/-! ## Writing -/

theorem write_of_writable {c : Connection} (writable : c.role.unwritable = none) (f : Frame) :
    c.write f = ({ c with role.written := f :: c.role.written }, .ok ()) := by
  simp only [Connection.write, writable]

theorem write_of_unwritable {c : Connection} {reason : String}
    (unwritable : c.role.unwritable = some reason) (f : Frame) :
    c.write f = (c, .error reason) := by
  simp only [Connection.write, unwritable]

/-- A frame is written, or not. -/
theorem write_cases (c : Connection) (f : Frame) :
    ∃ written, (c.write f).1 = { c with role.written := written } ∧
      (written = c.role.written ∨ written = f :: c.role.written) := by
  cases writing : c.role.unwritable with
  | none => exact ⟨_, by rw [write_of_writable writing], .inr rfl⟩
  | some reason => exact ⟨_, by rw [write_of_unwritable writing], .inl rfl⟩

theorem writeOn_of_writable {c : Connection} (writable : c.role.unwritable = none) (h : Hub σ)
    (f : Frame) : c.writeOn h f = (h, { c with role.written := f :: c.role.written }) := by
  simp only [writeOn, write_of_writable writable, goOn]

theorem writeOn_of_unwritable {c : Connection} {reason : String}
    (unwritable : c.role.unwritable = some reason) (h : Hub σ) (f : Frame) :
    c.writeOn h f = c.finish h (.error reason) := by
  simp only [writeOn, write_of_unwritable unwritable, goOn]

/-! ## The end of a loop -/

/-- A connection after its loop has ended. -/
def finished (c : Connection) : Connection :=
  { c with
    caller := c.caller.terminate.1.letGo.1
    role := {
      looping := false
      written := if c.role.unwritable.isNone then .close :: c.role.written else c.role.written
      unwritable := c.role.unwritable } }

/-- What the end of a loop does to the hub. -/
def farewell (c : Connection) (result : Except String Unit) : List Hub.Move :=
  [.log c.caller.terminate.2.2, .close c.session, .log c.caller.terminate.1.letGo.2,
    .drop c.session, .leave c.mailbox,
    .log (match result with
      | .ok () => []
      | .error reason => [.socketFailed reason])]

theorem finish_eq (E : Engine σ) (h : Hub σ) (c : Connection) (result : Except String Unit) :
    c.finish h result = (Hub.after E h (c.farewell result), c.finished) := by
  obtain ⟨caller, session, mailbox, looping, outbound, inbound, written, unwritable⟩ := c
  cases unwritable <;> cases result <;> rfl

/-- The last frame is neither a binary nor a text frame. -/
theorem written_finished (c : Connection) :
    c.finished.role.written = c.role.written ∨
      c.finished.role.written = .close :: c.role.written := by
  unfold finished
  cases c.role.unwritable with
  | none => exact .inr rfl
  | some reason => exact .inl rfl

theorem binaries_finished (c : Connection) : c.finished.binaries = c.binaries := by
  rcases c.written_finished with same | more
  · exact binaries_congr same
  · rw [binaries_of_written more]
    exact List.append_nil _

theorem texts_finished (c : Connection) : c.finished.texts = c.texts := by
  rcases c.written_finished with same | more
  · exact texts_congr same
  · rw [texts_of_written more]
    exact List.append_nil _

/-! ## What comes first -/

section Equations

variable {h : Hub σ} {c : Connection}

theorem serve_of_past (past : c.role.looping = false) : c.serve h = (h, c) := by
  simp [serve, past]

theorem serve_of_unread (looping : c.role.looping) {bytes : Bytes} {rest : List Bytes}
    (waits : h.unread c.mailbox = bytes :: rest) :
    c.serve h = c.writeOn { h with
      mailboxes := h.mailboxes.modify c.mailbox fun m => { m with unread := rest } }
      (.binary bytes) := by
  simp [serve, looping, Hub.read?_of_cons waits]

theorem serve_of_cutOff (looping : c.role.looping) (read : h.unread c.mailbox = [])
    (cut : h.isCutOff c.mailbox) : c.serve h = c.finish h (.ok ()) := by
  simp [serve, looping, Hub.read?_of_nil read, cut]

theorem serve_of_outbound (looping : c.role.looping) (read : h.unread c.mailbox = [])
    (attended : ¬ h.isCutOff c.mailbox) {p : Payload} {rest : List Payload}
    (waits : c.role.outbound = p :: rest) :
    c.serve h = writeOn h { c with role.outbound := rest } p.frame := by
  simp [serve, looping, Hub.read?_of_nil read, attended, waits]

theorem serve_of_arrival {a : Arrival} (arrives : c.arrival? h = some a) :
    ∃ rest, c.serve h = handle h { c with role.inbound := rest } a := by
  unfold arrival? at arrives
  split at arrives
  · next all =>
    obtain ⟨looping, read, attended, nothing⟩ := all
    obtain ⟨rest, arriving⟩ := List.head?_eq_some_iff.mp arrives
    exact ⟨rest, by simp [serve, looping, Hub.read?_of_nil read, attended, nothing, arriving]⟩
  · cases arrives

/-- With nothing to write and nothing to take in, the loop waits. -/
theorem serve_of_idle (looping : c.role.looping) (read : h.unread c.mailbox = [])
    (attended : ¬ h.isCutOff c.mailbox) (nothing : c.role.outbound = [])
    (idle : c.arrival? h = none) : c.serve h = (h, c) := by
  have none_there : c.role.inbound = [] := by
    rw [arrival?, if_pos ⟨looping, read, attended, nothing⟩] at idle
    exact List.head?_eq_none_iff.mp idle
  simp [serve, looping, Hub.read?_of_nil read, attended, nothing, none_there]

end Equations

/-! ## Turns -/

/-- What the loop has done to the hub when it comes to its end. -/
inductive Leaving (h : Hub σ) (c : Connection) : List Hub.Move → Prop where
  /-- It has taken a delivery and could not write it. -/
  | undelivered {bytes : Bytes} {rest : List Bytes} (waits : h.unread c.mailbox = bytes :: rest) :
    Leaving h c [.read c.mailbox]
  /-- It has read a binary frame and its request was refused. -/
  | refused {bytes : Bytes} (reads : c.binaryRead? h = some bytes)
    (refusal : (h.request c.session bytes).2.isOk = false) : Leaving h c [.request c.session bytes]
  /-- Nothing but to log something: there are no deliveries any more, a payload could not be
      written, or the peer has ended the connection or broken its rules. -/
  | plain (records : List Record) (nothing : c.binaryRead? h = none ∧ c.textRead? h = none) :
    Leaving h c [.log records]

/-- What a turn does to the hub and to the connection. -/
inductive Turn (h : Hub σ) (c : Connection) : List Hub.Move → Connection → Prop where
  | nothing (reads : c.binaryRead? h = none ∧ c.textRead? h = none) : Turn h c [] c
  /-- A delivery is written. -/
  | delivered {bytes : Bytes} {rest : List Bytes} (waits : h.unread c.mailbox = bytes :: rest)
    (looping : c.role.looping) :
    Turn h c [.read c.mailbox] { c with role.written := .binary bytes :: c.role.written }
  /-- A payload is written. -/
  | carried {p : Payload} {rest : List Payload} (waits : c.role.outbound = p :: rest)
    (looping : c.role.looping) :
    Turn h c [] { c with
      role.outbound := rest
      role.written := p.frame :: c.role.written }
  /-- A binary frame is read and its request is accepted. -/
  | asked {bytes : Bytes} (rest : List Arrival) (reads : c.binaryRead? h = some bytes)
    (accepted : (h.request c.session bytes).2.isOk) :
    Turn h c [.request c.session bytes, .poll c.session] { c with role.inbound := rest }
  /-- A text frame is read. -/
  | told {bytes : Bytes} (rest : List Arrival) (reads : c.textRead? h = some bytes) :
    Turn h c [.log (c.caller.receive bytes).2.2] { c with
      caller := (c.caller.receive bytes).1
      role.inbound := rest }
  /-- A control frame is read, and perhaps answered in kind. -/
  | passed (rest : List Arrival) {written : List Frame}
    (reads : c.binaryRead? h = none ∧ c.textRead? h = none)
    (frames : written = c.role.written ∨ ∃ bytes, written = .pong bytes :: c.role.written) :
    Turn h c [] { c with
      role.inbound := rest
      role.written := written }
  /-- The loop ends. -/
  | ended {moves : List Hub.Move} (outbound : List Payload) (inbound : List Arrival)
    (result : Except String Unit) (looping : c.role.looping) (leaving : Leaving h c moves) :
    Turn h c (moves ++ c.farewell result) (finished { c with
      role.outbound := outbound
      role.inbound := inbound })

section Cases

variable (E : Engine σ) {h : Hub σ} {c : Connection}

theorem finish_turn {moves : List Hub.Move} (outbound : List Payload) (inbound : List Arrival)
    (result : Except String Unit) (looping : c.role.looping) (leaving : Leaving h c moves) :
    ∃ L c', Turn h c L c' ∧
      finish (Hub.after E h moves) { c with
        role.outbound := outbound
        role.inbound := inbound } result = (Hub.after E h L, c') := by
  refine ⟨_, _, .ended outbound inbound result looping leaving, ?_⟩
  have whole : Hub.after E h (moves ++ c.farewell result) =
      Hub.after E (Hub.after E h moves) (c.farewell result) := Run.after_append ..
  rw [finish_eq E, whole]
  rfl

/-- If a request of a session is accepted, then a poll after it is, too. -/
theorem poll_of_request {k : Nat} {bytes : Bytes} (accepted : (h.request k bytes).2.isOk) :
    ((h.request k bytes).1.poll k).2.isOk := by
  unfold Hub.request Hub.sendFor at accepted ⊢
  cases hs : h.sessions[k]? with
  | none => simp [hs, Except.isOk, Except.toBool] at accepted
  | some s =>
    by_cases closed : s.closed
    · simp [hs, closed, Except.isOk, Except.toBool] at accepted
    · simp only [hs, closed, Bool.false_eq_true, if_false] at accepted ⊢
      by_cases running : h.isRunning
      · have still : (h.send (.request s.id bytes)).1.isRunning := by
          rw [Hub.isRunning_send]
          exact running
        simp only [Hub.poll, Hub.sendFor, Hub.sessions_send, hs, closed, Bool.false_eq_true, if_false,
          Hub.send_eq still]
        rfl
      · simp [Hub.send_of_not_running running, Except.isOk, Except.toBool] at accepted

theorem request_turn {bytes : Bytes} (rest : List Arrival) (looping : c.role.looping)
    (reads : c.binaryRead? h = some bytes) :
    ∃ L c', Turn h c L c' ∧
      request h { c with role.inbound := rest } bytes = (Hub.after E h L, c') := by
  unfold Connection.request
  cases requested : h.request c.session bytes with
  | mk h₁ answer =>
    cases answer with
    | error e =>
      have first : Hub.after E h [.request c.session bytes] = h₁ := congrArg Prod.fst requested
      have refusal : (h.request c.session bytes).2.isOk = false := by rw [requested]; rfl
      obtain ⟨L, c', turn, same⟩ := finish_turn E c.role.outbound rest (.error e.message) looping
        (.refused reads refusal)
      rw [first] at same
      exact ⟨L, c', turn, same⟩
    | ok _ =>
      have accepted : (h.request c.session bytes).2.isOk := by rw [requested]; rfl
      have polls := poll_of_request accepted
      rw [requested] at polls
      refine ⟨_, _, .asked rest reads accepted, ?_⟩
      have both : Hub.after E h [.request c.session bytes, .poll c.session] =
          (h₁.poll c.session).1 := by
        show ((h.request c.session bytes).1.poll c.session).1 = _
        rw [requested]
      rw [both]
      simp only
      cases polled : h₁.poll c.session with
      | mk h₂ answer =>
        cases answer with
        | error e =>
          rw [polled] at polls
          cases polls
        | ok _ => rfl

/-- What comes in is dealt with. -/
theorem handle_turn {a : Arrival} {rest : List Arrival} (arrives : c.arrival? h = some a) :
    ∃ L c', Turn h c L c' ∧
      handle h { c with role.inbound := rest } a = (Hub.after E h L, c') := by
  have looping := looping_of_arrival arrives
  have leave : ∀ (records : List Record) (result : Except String Unit),
      c.binaryRead? h = none ∧ c.textRead? h = none → ∃ L c', Turn h c L c' ∧
        finish (h.noteAll records) { c with role.inbound := rest } result =
          (Hub.after E h L, c') := by
    intro records result nothing
    have logged : Hub.after E h [.log records] = h.noteAll records := rfl
    rw [← logged]
    exact finish_turn E c.role.outbound rest result looping (.plain records nothing)
  unfold handle
  by_cases long : frameLimit < a.size
  · rw [if_pos long]
    refine leave [] _ ?_
    unfold binaryRead? textRead?
    rw [arrives]
    cases a with
    | binary bytes => exact ⟨if_neg (Nat.not_le.mpr long), rfl⟩
    | text bytes => exact ⟨rfl, if_neg (Nat.not_le.mpr long)⟩
    | _ => exact ⟨rfl, rfl⟩
  · rw [if_neg long]
    have short := Nat.not_lt.mp long
    cases a with
    | binary bytes =>
      have reads : c.binaryRead? h = some bytes := by
        rw [binaryRead?, arrives]
        exact if_pos short
      exact request_turn E rest looping reads
    | text bytes =>
      have reads : c.textRead? h = some bytes := by
        rw [textRead?, arrives]
        exact if_pos short
      exact ⟨_, _, .told rest reads, rfl⟩
    | ping bytes =>
      have nothing : c.binaryRead? h = none ∧ c.textRead? h = none := by
        simp [binaryRead?, textRead?, arrives]
      simp only
      split
      · exact leave [] _ nothing
      · obtain ⟨written, same, frames⟩ := write_cases { c with role.inbound := rest } (.pong bytes)
        rw [same]
        exact ⟨_, _, .passed rest nothing (frames.imp_right fun more => ⟨bytes, more⟩), rfl⟩
    | pong bytes =>
      have nothing : c.binaryRead? h = none ∧ c.textRead? h = none := by
        simp [binaryRead?, textRead?, arrives]
      exact ⟨_, _, .passed rest nothing (.inl rfl), rfl⟩
    | close => exact leave [_] _ (by simp [binaryRead?, textRead?, arrives])
    | ended => exact leave [_] _ (by simp [binaryRead?, textRead?, arrives])
    | failed reason => exact leave [] _ (by simp [binaryRead?, textRead?, arrives])

end Cases

/-- Every turn is one of these. -/
theorem serve_turn (E : Engine σ) (h : Hub σ) (c : Connection) :
    ∃ L c', Turn h c L c' ∧ c.serve h = (Hub.after E h L, c') := by
  by_cases past : c.role.looping = false
  · have nothing : c.arrival? h = none := if_neg fun all => by simp [past] at all
    exact ⟨[], c, .nothing (reads_nothing nothing), serve_of_past past⟩
  have looping : c.role.looping := by simpa using past
  cases waits : h.unread c.mailbox with
  | cons bytes rest =>
    have first : Hub.after E h [.read c.mailbox] =
        { h with mailboxes := h.mailboxes.modify c.mailbox fun m => { m with unread := rest } } := by
      show ((h.read? c.mailbox).map (·.2)).getD h = _
      rw [Hub.read?_of_cons waits]
      rfl
    rw [serve_of_unread looping waits, ← first]
    cases writing : c.role.unwritable with
    | none =>
      rw [writeOn_of_writable writing]
      exact ⟨_, _, .delivered waits looping, rfl⟩
    | some reason =>
      rw [writeOn_of_unwritable writing]
      exact finish_turn E c.role.outbound c.role.inbound (.error reason) looping (.undelivered waits)
  | nil =>
    have same : Hub.after E h [.log []] = h := rfl
    by_cases cut : h.isCutOff c.mailbox
    · have nothing : c.arrival? h = none := if_neg fun all => all.2.2.1 cut
      rw [serve_of_cutOff looping waits cut, ← same]
      exact finish_turn E c.role.outbound c.role.inbound (.ok ()) looping
        (.plain [] (reads_nothing nothing))
    cases out : c.role.outbound with
    | cons p rest =>
      have nothing : c.arrival? h = none := arrival?_of_outbound (by simp [out])
      have next : ({ c with role.outbound := rest } : Connection).role.unwritable =
        c.role.unwritable := rfl
      rw [serve_of_outbound looping waits cut out]
      rcases Option.eq_none_or_eq_some c.role.unwritable with writing | ⟨reason, writing⟩
      · exact ⟨_, _, .carried out looping, writeOn_of_writable (next.trans writing) h p.frame⟩
      · have ends := writeOn_of_unwritable (next.trans writing) (Hub.after E h [.log []]) p.frame
        obtain ⟨L, c', turn, last⟩ := finish_turn E rest c.role.inbound (.error reason) looping
          (.plain [] (reads_nothing nothing))
        exact ⟨L, c', turn, ends.trans last⟩
    | nil =>
      cases arrives : c.arrival? h with
      | none =>
        exact ⟨[], c, .nothing (reads_nothing arrives), serve_of_idle looping waits cut out arrives⟩
      | some a =>
        obtain ⟨rest, served⟩ := serve_of_arrival arrives
        rw [served]
        exact handle_turn E arrives

end Connection

end SessionHub
